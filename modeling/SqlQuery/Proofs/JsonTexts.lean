import SqlQuery.Proofs.DigitTexts
import SqlQuery.Value.Json

/-!
# JSON texts are told apart

Null, truth values, integers, texts and lists of these are known from their JSON text
(`Value.IsJson.writeJson_inj`). Characters are read back from their escapes, so a text ends with the
first quote that is read; an integer ends with its last digit; and what follows the first item of a
list is a comma or the end of the list.
-/

namespace SqlQuery.Value

/-! ## Characters -/

/-- The character that a letter after a backslash stands for. -/
def unescaped : Char → Char
  | 'n' => '\n'
  | 'r' => '\r'
  | 't' => '\t'
  | 'f' => '\x0c'
  | 'b' => '\x08'
  | c => c

/-- Reads the digits of a code unit. After a high surrogate another escape is read. -/
def readUnits (digits : List Char) : Char × List Char :=
  let unit := hexValue (digits.take 4)
  let rest := digits.drop 4
  if 0xd800 ≤ unit ∧ unit < 0xdc00 then
    let low := hexValue ((rest.drop 2).take 4)
    (Char.ofNat (0x10000 + (unit - 0xd800) * 0x400 + (low - 0xdc00)), (rest.drop 2).drop 4)
  else (Char.ofNat unit, rest)

/-- Reads a character of a JSON text. -/
def readJsonChar : List Char → Option (Char × List Char)
  | [] => none
  | '\\' :: 'u' :: digits => some (readUnits digits)
  | '\\' :: c :: rest => some (unescaped c, rest)
  | c :: rest => some (c, rest)

theorem readJsonChar_plain {c : Char} (h : c ≠ '\\') (rest : List Char) :
    readJsonChar (c :: rest) = some (c, rest) := by
  unfold readJsonChar
  split
  · next heq => cases heq
  · next heq => exact absurd (List.head_eq_of_cons_eq heq) h
  · next heq => exact absurd (List.head_eq_of_cons_eq heq) h
  · next heq =>
    cases heq
    rfl

theorem readJsonChar_letter {c : Char} (h : c ≠ 'u') (rest : List Char) :
    readJsonChar ('\\' :: c :: rest) = some (unescaped c, rest) := by
  rw [readJsonChar]
  exact fun hu => h hu

theorem readJsonChar_escape (n : Nat) (rest : List Char) :
    readJsonChar ((unitEscape n).toList ++ rest)
      = some (readUnits ((Text.hexPadded 4 n).toList ++ rest)) := by
  rw [unitEscape, String.toList_append]
  rfl

/-- A code unit that is no high surrogate. -/
theorem readUnits_single {n : Nat} (hsmall : n < 0x10000) (hplain : n < 0xd800 ∨ 0xdc00 ≤ n)
    (rest : List Char) :
    readUnits ((Text.hexPadded 4 n).toList ++ rest) = (Char.ofNat n, rest) := by
  obtain ⟨hvalue, hrest⟩ := hexPadded_append (by decide : 0 < 4) hsmall rest
  unfold readUnits
  simp only [hvalue, hrest]
  rw [if_neg (by omega)]

/-- Two surrogates. -/
theorem readUnits_pair {high low : Nat} (hhigh : high < 0x400) (hlow : low < 0x400)
    (rest : List Char) : readUnits ((Text.hexPadded 4 (0xd800 + high)).toList
        ++ ((unitEscape (0xdc00 + low)).toList ++ rest))
      = (Char.ofNat (0x10000 + high * 0x400 + low), rest) := by
  obtain ⟨hvalue, hrest⟩ := hexPadded_append (by decide : 0 < 4)
    (by omega : 0xd800 + high < 16 ^ 4) ((unitEscape (0xdc00 + low)).toList ++ rest)
  obtain ⟨hvalue', hrest'⟩ := hexPadded_append (by decide : 0 < 4)
    (by omega : 0xdc00 + low < 16 ^ 4) rest
  have hmarks : ((unitEscape (0xdc00 + low)).toList ++ rest).drop 2
      = (Text.hexPadded 4 (0xdc00 + low)).toList ++ rest := by
    rw [unitEscape, String.toList_append]
    rfl
  unfold readUnits
  simp only [hvalue, hrest, hmarks, hvalue', hrest', Nat.add_sub_cancel_left]
  rw [if_pos (by omega)]

/-- Characters that are not written as themselves or by a code unit are written by a letter. -/
theorem jsonChar_cases (c : Char) :
    (∃ letter, jsonChar c = String.ofList ['\\', letter] ∧ letter ≠ 'u' ∧ unescaped letter = c)
    ∨ jsonChar c = c.toString ∧ c ≠ '\\' ∧ c ≠ '"'
    ∨ jsonChar c = unitEscape c.toNat ∧ c.toNat < 0x10000
    ∨ jsonChar c = unitEscape (0xd800 + (c.toNat - 0x10000) / 0x400)
        ++ unitEscape (0xdc00 + (c.toNat - 0x10000) % 0x400) ∧ 0x10000 ≤ c.toNat := by
  by_cases hshort : c ∈ ['"', '\\', '\n', '\r', '\t', '\x0c', '\x08']
  · left
    simp only [List.mem_cons, List.not_mem_nil, or_false] at hshort
    rcases hshort with rfl | rfl | rfl | rfl | rfl | rfl | rfl
    · exact ⟨'"', rfl, by decide, rfl⟩
    · exact ⟨'\\', rfl, by decide, rfl⟩
    · exact ⟨'n', rfl, by decide, rfl⟩
    · exact ⟨'r', rfl, by decide, rfl⟩
    · exact ⟨'t', rfl, by decide, rfl⟩
    · exact ⟨'f', rfl, by decide, rfl⟩
    · exact ⟨'b', rfl, by decide, rfl⟩
  · right
    simp only [List.mem_cons, List.not_mem_nil, or_false, not_or] at hshort
    obtain ⟨hquote, hbackslash, hnewline, hreturn, htab, hfeed, hback⟩ := hshort
    unfold jsonChar
    simp only [beq_iff_eq]
    rw [if_neg hquote, if_neg hbackslash, if_neg hnewline, if_neg hreturn, if_neg htab,
      if_neg hfeed, if_neg hback]
    split
    · exact .inl ⟨rfl, hbackslash, hquote⟩
    · split
      · next hsmall => exact .inr (.inl ⟨rfl, hsmall⟩)
      · next hlarge => exact .inr (.inr ⟨rfl, Nat.not_lt.1 hlarge⟩)

theorem readJsonChar_jsonChar (c : Char) (rest : List Char) :
    readJsonChar ((jsonChar c).toList ++ rest) = some (c, rest) := by
  have hvalid : c.toNat < 0xd800 ∨ 0xdfff < c.toNat ∧ c.toNat < 0x110000 := c.valid
  rcases jsonChar_cases c with ⟨letter, hwrite, hletter, rfl⟩ | ⟨hwrite, hbackslash, -⟩
    | ⟨hwrite, hsmall⟩ | ⟨hwrite, hlarge⟩
  · rw [hwrite, String.toList_ofList]
    exact readJsonChar_letter hletter rest
  · rw [hwrite, Char.toString, String.toList_singleton]
    exact readJsonChar_plain hbackslash rest
  · rw [hwrite, readJsonChar_escape, readUnits_single hsmall (by omega), Char.ofNat_toNat]
  · have hsplit := Nat.div_add_mod (c.toNat - 0x10000) 0x400
    have hlow := Nat.mod_lt (c.toNat - 0x10000) (by decide : 0 < 0x400)
    have hcode : 0x10000 + (c.toNat - 0x10000) / 0x400 * 0x400 + (c.toNat - 0x10000) % 0x400
        = c.toNat := by omega
    rw [hwrite, String.toList_append, List.append_assoc, readJsonChar_escape,
      readUnits_pair (by omega) hlow, hcode, Char.ofNat_toNat]

/-- The characters of a JSON text are read back, and none is written like the closing quote. -/
theorem readBack_jsonChar : ReadBack (fun c => (jsonChar c).toList) readJsonChar '"' where
  read_write := readJsonChar_jsonChar
  starts c := by
    rcases jsonChar_cases c with ⟨letter, hwrite, -, -⟩ | ⟨hwrite, -, hquote⟩ | ⟨hwrite, -⟩
      | ⟨hwrite, -⟩
    · rw [hwrite, String.toList_ofList]
      exact ⟨'\\', _, rfl, by decide⟩
    · rw [hwrite, Char.toString, String.toList_singleton]
      exact ⟨c, [], rfl, hquote⟩
    · rw [hwrite, unitEscape, String.toList_append]
      exact ⟨'\\', _, rfl, by decide⟩
    · rw [hwrite, unitEscape, String.toList_append, String.toList_append, List.append_assoc]
      exact ⟨'\\', _, rfl, by decide⟩

theorem jsonText_append (s : String) (x : List Char) : (jsonText s).toList ++ x
    = '"' :: (s.toList.flatMap (fun c => (jsonChar c).toList) ++ '"' :: x) := by
  unfold jsonText
  rw [String.toList_append, String.toList_append, String.toList_join, List.flatMap_map,
    List.append_assoc, List.append_assoc]
  rfl

/-- A text is known from its JSON text, whatever follows that. -/
theorem jsonText_inj {s t : String} {x y : List Char}
    (h : (jsonText s).toList ++ x = (jsonText t).toList ++ y) : s = t ∧ x = y := by
  rw [jsonText_append, jsonText_append] at h
  obtain ⟨hchars, hrest⟩ := readBack_jsonChar.quoted_inj (List.tail_eq_of_cons_eq h)
  exact ⟨String.toList_inj.1 hchars, hrest⟩

/-! ## Integers -/

theorem toList_toString_natCast (n : Nat) : (toString (n : Int)).toList = Nat.toDigits 10 n := by
  rw [Int.toString_eq_repr]
  show n.repr.toList = _
  rw [Nat.repr_eq_ofList_toDigits, String.toList_ofList]

theorem toList_toString_negSucc (n : Nat) :
    (toString (Int.negSucc n)).toList = '-' :: Nat.toDigits 10 (n + 1) := by
  rw [Int.toString_eq_repr]
  show ("-" ++ (n + 1).repr).toList = _
  rw [String.toList_append, Nat.repr_eq_ofList_toDigits]
  exact congrArg ('-' :: ·) String.toList_ofList

/-- Digits do not start with a sign. -/
theorem toDigits_append_ne_minus {n : Nat} {x y : List Char} :
    Nat.toDigits 10 n ++ x ≠ '-' :: y := by
  intro h
  obtain ⟨c, cs, hcs, hdigit⟩ := exists_toDigits_eq_cons n
  rw [hcs] at h
  rw [List.head_eq_of_cons_eq h] at hdigit
  exact absurd hdigit (by decide)

theorem toString_int_inj {m n : Int} {x y : List Char} (hx : StopsDigits x) (hy : StopsDigits y)
    (h : (toString m).toList ++ x = (toString n).toList ++ y) : m = n ∧ x = y := by
  cases m with
  | ofNat m =>
    rw [Int.ofNat_eq_natCast, toList_toString_natCast] at h
    cases n with
    | ofNat n =>
      rw [Int.ofNat_eq_natCast, toList_toString_natCast] at h
      obtain ⟨rfl, hrest⟩ := toDigits_append_inj hx hy h
      exact ⟨rfl, hrest⟩
    | negSucc n =>
      rw [toList_toString_negSucc] at h
      exact absurd h toDigits_append_ne_minus
  | negSucc m =>
    rw [toList_toString_negSucc] at h
    cases n with
    | ofNat n =>
      rw [Int.ofNat_eq_natCast, toList_toString_natCast] at h
      exact absurd h.symm toDigits_append_ne_minus
    | negSucc n =>
      rw [toList_toString_negSucc] at h
      obtain ⟨hdigits, hrest⟩ := toDigits_append_inj hx hy (List.tail_eq_of_cons_eq h)
      cases hdigits
      exact ⟨rfl, hrest⟩

/-! ## Lists -/

/-- What stands after an item of a list: the other items, the end, and what follows the list. -/
def listRest : List String → List Char → List Char
  | [], x => ']' :: x
  | s :: ss, x => ',' :: ' ' :: (s.toList ++ listRest ss x)

theorem listRest_stopsDigits (ss : List String) (x : List Char) : StopsDigits (listRest ss x) := by
  cases ss with
  | nil => exact stopsDigits_cons rfl _
  | cons s ss => exact stopsDigits_cons rfl _

theorem toList_intercalate_append (s : String) (ss : List String) (x : List Char) :
    (", ".intercalate (s :: ss)).toList ++ ']' :: x = s.toList ++ listRest ss x := by
  induction ss generalizing s with
  | nil =>
    rw [String.toList_intercalate]
    simp [listRest]
  | cons t ss ih =>
    have hrest := ih t
    rw [String.toList_intercalate, List.map_cons] at hrest
    rw [String.toList_intercalate, List.map_cons, List.map_cons, List.intercalate_cons_cons,
      List.append_assoc, List.append_assoc, hrest]
    rfl

/-! ## Values -/

/-- Null, truth values, integers, texts and lists of these. -/
inductive IsJson : Value → Prop
  | null : IsJson .null
  | bool (b : Bool) : IsJson (.bool b)
  | int (n : Int) : IsJson (.int n)
  | text (s : String) : IsJson (.text s)
  | list {items : List Value} (h : ∀ v ∈ items, IsJson v) : IsJson (.list items)

inductive JsonKind where
  | null
  | bool
  | int
  | text
  | list

/-- The kind of value that a JSON text with this first character stands for. -/
def JsonKind.ofChar : Char → JsonKind
  | 'n' => null
  | 't' | 'f' => bool
  | '"' => text
  | '[' => list
  | _ => int

def jsonKind : Value → JsonKind
  | .null => .null
  | .bool _ => .bool
  | .text _ => .text
  | .list _ => .list
  | _ => .int

variable {style : JsonStyle}

theorem writeJsonAll_eq_ok {vs : List Value} {ss : List String}
    (h : writeJsonAll style vs = .ok ss) :
    List.Forall₂ (fun v s => v.writeJson style = .ok s) vs ss := by
  induction vs generalizing ss with
  | nil =>
    rw [writeJsonAll] at h
    cases h
    exact .nil
  | cons v vs ih =>
    rw [writeJsonAll] at h
    cases hv : v.writeJson style with
    | error name =>
      rw [hv] at h
      cases h
    | ok s =>
      cases hvs : writeJsonAll style vs with
      | error name =>
        rw [hv, hvs] at h
        cases h
      | ok rest =>
        rw [hv, hvs] at h
        cases h
        exact .cons hv (ih hvs)

theorem writeJson_list_eq_ok {vs : List Value} {s : String}
    (h : (Value.list vs).writeJson style = .ok s) : ∃ ss, s = "[" ++ ", ".intercalate ss ++ "]"
      ∧ List.Forall₂ (fun v s => v.writeJson style = .ok s) vs ss := by
  rw [writeJson] at h
  cases hvs : writeJsonAll style vs with
  | error name =>
    rw [hvs] at h
    cases h
  | ok ss =>
    rw [hvs] at h
    cases h
    exact ⟨ss, rfl, writeJsonAll_eq_ok hvs⟩

theorem exists_writeJsonAll {vs : List Value} (h : ∀ v ∈ vs, ∃ s, v.writeJson style = .ok s) :
    ∃ ss, writeJsonAll style vs = .ok ss := by
  induction vs with
  | nil => exact ⟨[], rfl⟩
  | cons v vs ih =>
    rw [List.forall_mem_cons] at h
    obtain ⟨s, hs⟩ := h.1
    obtain ⟨ss, hss⟩ := ih h.2
    rw [writeJsonAll, hs, hss]
    exact ⟨s :: ss, rfl⟩

theorem IsJson.exists_writeJson {v : Value} (hv : v.IsJson) (style : JsonStyle) :
    ∃ s, v.writeJson style = .ok s := by
  induction hv with
  | null => exact ⟨_, rfl⟩
  | bool b => exact ⟨_, rfl⟩
  | int n => exact ⟨_, rfl⟩
  | text s => exact ⟨_, rfl⟩
  | list h ih =>
    obtain ⟨ss, hss⟩ := exists_writeJsonAll ih
    rw [writeJson, hss]
    exact ⟨_, rfl⟩

theorem writtenList_append (ss : List String) (x : List Char) :
    ("[" ++ ", ".intercalate ss ++ "]").toList ++ x
      = '[' :: ((", ".intercalate ss).toList ++ ']' :: x) := by
  rw [String.toList_append, String.toList_append, List.append_assoc, List.append_assoc]
  rfl

theorem JsonKind.ofChar_digit {c : Char} (h : c.isDigit = true) : ofChar c = int ∧ c ≠ ']' := by
  refine ⟨?_, fun hend => absurd (hend ▸ h) (by decide)⟩
  unfold ofChar
  split
  · exact absurd h (by decide)
  · exact absurd h (by decide)
  · exact absurd h (by decide)
  · exact absurd h (by decide)
  · exact absurd h (by decide)
  · rfl

/-- The first character of a JSON text tells the kind of value. -/
theorem IsJson.starts {v : Value} (hv : v.IsJson) {s : String} (hs : v.writeJson style = .ok s)
    (x : List Char) :
    ∃ c cs, s.toList ++ x = c :: cs ∧ JsonKind.ofChar c = v.jsonKind ∧ c ≠ ']' := by
  cases hv with
  | null =>
    rw [writeJson] at hs
    cases hs
    exact ⟨'n', _, rfl, rfl, by decide⟩
  | bool b =>
    rw [writeJson] at hs
    cases hs
    cases b
    · exact ⟨'f', _, rfl, rfl, by decide⟩
    · exact ⟨'t', _, rfl, rfl, by decide⟩
  | int n =>
    rw [writeJson] at hs
    cases hs
    cases n with
    | ofNat n =>
      obtain ⟨c, cs, hcs, hdigit⟩ := exists_toDigits_eq_cons n
      obtain ⟨hkind, hend⟩ := JsonKind.ofChar_digit hdigit
      rw [Int.ofNat_eq_natCast, toList_toString_natCast, hcs]
      exact ⟨c, _, rfl, hkind, hend⟩
    | negSucc n =>
      rw [toList_toString_negSucc]
      exact ⟨'-', _, rfl, rfl, by decide⟩
  | text t =>
    rw [writeJson] at hs
    cases hs
    rw [jsonText_append]
    exact ⟨'"', _, rfl, rfl, by decide⟩
  | list h =>
    obtain ⟨ss, rfl, -⟩ := writeJson_list_eq_ok hs
    rw [writtenList_append]
    exact ⟨'[', _, rfl, rfl, by decide⟩

/-- A value that no other JSON value is mistaken for. -/
def Known (style : JsonStyle) (u : Value) : Prop :=
  ∀ {v : Value} {s t : String} {x y : List Char}, v.IsJson → u.writeJson style = .ok s →
    v.writeJson style = .ok t → StopsDigits x → StopsDigits y → s.toList ++ x = t.toList ++ y →
    u = v ∧ x = y

section Items

variable {us vs : List Value} {ss ts : List String} {x y : List Char}

theorem listRest_inj (hus : ∀ u ∈ us, u.Known style) (hvs : ∀ v ∈ vs, v.IsJson)
    (hss : List.Forall₂ (fun u s => u.writeJson style = .ok s) us ss)
    (hts : List.Forall₂ (fun v t => v.writeJson style = .ok t) vs ts)
    (h : listRest ss x = listRest ts y) : us = vs ∧ x = y := by
  induction hss generalizing vs ts with
  | nil =>
    cases hts with
    | nil => exact ⟨rfl, List.tail_eq_of_cons_eq h⟩
    | cons => exact absurd (List.head_eq_of_cons_eq h) (by decide)
  | cons hs hss ih =>
    cases hts with
    | nil => exact absurd (List.head_eq_of_cons_eq h) (by decide)
    | cons ht hts =>
      rw [List.forall_mem_cons] at hus hvs
      obtain ⟨rfl, hrest⟩ := hus.1 hvs.1 hs ht (listRest_stopsDigits _ _) (listRest_stopsDigits _ _)
        (List.tail_eq_of_cons_eq (List.tail_eq_of_cons_eq h))
      obtain ⟨rfl, rfl⟩ := ih hus.2 hvs.2 hts hrest
      exact ⟨rfl, rfl⟩

theorem items_inj (hus : ∀ u ∈ us, u.Known style) (hjson : ∀ u ∈ us, u.IsJson)
    (hvs : ∀ v ∈ vs, v.IsJson) (hss : List.Forall₂ (fun u s => u.writeJson style = .ok s) us ss)
    (hts : List.Forall₂ (fun v t => v.writeJson style = .ok t) vs ts)
    (h : (", ".intercalate ss).toList ++ ']' :: x = (", ".intercalate ts).toList ++ ']' :: y) :
    us = vs ∧ x = y := by
  cases hss with
  | nil =>
    cases hts with
    | nil => exact ⟨rfl, List.tail_eq_of_cons_eq h⟩
    | cons ht hts =>
      obtain ⟨c, cs, hstart, -, hend⟩ := (hvs _ List.mem_cons_self).starts ht (listRest _ y)
      rw [toList_intercalate_append, hstart] at h
      exact absurd (List.head_eq_of_cons_eq h).symm hend
  | cons hs hss =>
    cases hts with
    | nil =>
      obtain ⟨c, cs, hstart, -, hend⟩ := (hjson _ List.mem_cons_self).starts hs (listRest _ x)
      rw [toList_intercalate_append, hstart] at h
      exact absurd (List.head_eq_of_cons_eq h) hend
    | cons ht hts =>
      rw [toList_intercalate_append, toList_intercalate_append] at h
      rw [List.forall_mem_cons] at hus hvs
      obtain ⟨rfl, hrest⟩ :=
        hus.1 hvs.1 hs ht (listRest_stopsDigits _ _) (listRest_stopsDigits _ _) h
      obtain ⟨rfl, rfl⟩ := listRest_inj hus.2 hvs.2 hss hts hrest
      exact ⟨rfl, rfl⟩

end Items

theorem IsJson.jsonKind_eq {u v : Value} (hu : u.IsJson) (hv : v.IsJson) {s t : String}
    (hs : u.writeJson style = .ok s) (ht : v.writeJson style = .ok t) {x y : List Char}
    (h : s.toList ++ x = t.toList ++ y) : u.jsonKind = v.jsonKind := by
  obtain ⟨c, cs, hstart, hkind, -⟩ := hu.starts hs x
  obtain ⟨c', cs', hstart', hkind', -⟩ := hv.starts ht y
  rw [hstart, hstart'] at h
  rw [← hkind, ← hkind', List.head_eq_of_cons_eq h]

/-- **A JSON value is known from its text**, whatever follows that, unless it is a number and more
digits follow. -/
theorem IsJson.known {u : Value} (hu : u.IsJson) : u.Known style := by
  induction hu with
  | null =>
    intro v s t x y hv hs ht hx hy h
    have hkind := IsJson.null.jsonKind_eq hv hs ht h
    cases hv with
    | null =>
      obtain rfl : s = t := Except.ok.inj (hs.symm.trans ht)
      exact ⟨rfl, List.append_cancel_left h⟩
    | _ => cases hkind
  | bool b =>
    intro v s t x y hv hs ht hx hy h
    have hkind := (IsJson.bool b).jsonKind_eq hv hs ht h
    cases hv with
    | bool b' =>
      rw [writeJson] at hs ht
      cases hs
      cases ht
      cases b <;> cases b'
      · exact ⟨rfl, List.append_cancel_left h⟩
      · exact absurd (List.head_eq_of_cons_eq h) (by decide)
      · exact absurd (List.head_eq_of_cons_eq h) (by decide)
      · exact ⟨rfl, List.append_cancel_left h⟩
    | _ => cases hkind
  | int n =>
    intro v s t x y hv hs ht hx hy h
    have hkind := (IsJson.int n).jsonKind_eq hv hs ht h
    cases hv with
    | int n' =>
      rw [writeJson] at hs ht
      cases hs
      cases ht
      obtain ⟨rfl, hrest⟩ := toString_int_inj hx hy h
      exact ⟨rfl, hrest⟩
    | _ => cases hkind
  | text s =>
    intro v s t x y hv hs ht hx hy h
    have hkind := (IsJson.text _).jsonKind_eq hv hs ht h
    cases hv with
    | text s' =>
      rw [writeJson] at hs ht
      cases hs
      cases ht
      obtain ⟨rfl, hrest⟩ := jsonText_inj h
      exact ⟨rfl, hrest⟩
    | _ => cases hkind
  | list hall ih =>
    intro v s t x y hv hs ht hx hy h
    have hkind := (IsJson.list hall).jsonKind_eq hv hs ht h
    cases hv with
    | list hall' =>
      obtain ⟨ss, rfl, hss⟩ := writeJson_list_eq_ok hs
      obtain ⟨ts, rfl, hts⟩ := writeJson_list_eq_ok ht
      rw [writtenList_append, writtenList_append] at h
      obtain ⟨rfl, hrest⟩ := items_inj ih hall hall' hss hts (List.tail_eq_of_cons_eq h)
      exact ⟨rfl, hrest⟩
    | _ => cases hkind

/-- JSON values with one text are one value. -/
theorem IsJson.writeJson_inj {u v : Value} (hu : u.IsJson) (hv : v.IsJson) {s : String}
    (hs : u.writeJson style = .ok s) (ht : v.writeJson style = .ok s) : u = v :=
  (hu.known (x := []) (y := []) hv hs ht stopsDigits_nil stopsDigits_nil rfl).1

end SqlQuery.Value
