import SqlQuery.Proofs.CachedReads
import SqlQuery.Proofs.CachedWrites
import SqlQuery.Proofs.JsonTexts
import SqlQuery.Proofs.PlainTexts
import SqlQuery.Proofs.TimedMaps

/-!
# Statements that share a key

The key of a statement is the digest of a JSON text, in which a value that JSON lacks is written as
a text (`Value.keyForm`). So statements have one key if their bindings are the same, or if one binds
a text where the other binds a value with this plain text; and as JSON texts are told apart, no
other statements have (`digestOf_eq_iff`), unless two digests collide.

A cache answers accordingly. Rows that are set for a statement make a difference to the statements
that share its key and to no others (`Cache.shared_iff_alike`), and whatever the cache went through,
an answer is what was set for a statement alike (`Cache.set_of_answered`).
-/

namespace SqlQuery

namespace Value

inductive Scalar : Value → Prop
  | null : Scalar .null
  | bool (b : Bool) : Scalar (.bool b)
  | int (n : Int) : Scalar (.int n)
  | text (s : String) : Scalar (.text s)

/-- Null, truth values, integers, texts, decimals, dates, times, moments, byte strings and lists of
these. -/
inductive Keyed : Value → Prop
  | scalar {v : Value} (h : v.Scalar) : Keyed v
  | plain {v : Value} (h : v.LacksJson) : Keyed v
  | list {items : List Value} (h : ∀ v ∈ items, Keyed v) : Keyed (.list items)

/-- Values that are written alike: one is a text and the other has it as its plain text, or they
are lists of such values. -/
inductive Alike : Value → Value → Prop
  | refl (v : Value) : Alike v v
  | text {v : Value} (h : v.LacksJson) : Alike (.text v.plainText) v
  | plain {v : Value} (h : v.LacksJson) : Alike v (.text v.plainText)
  | list {us vs : List Value} (h : List.Forall₂ Alike us vs) : Alike (.list us) (.list vs)

/-- The JSON value that is written for a value. -/
def keyForm : Value → Value
  | .decimal d => .text (decimal d).plainText
  | .date d => .text (date d).plainText
  | .time t => .text (time t).plainText
  | .moment m => .text (moment m).plainText
  | .bytes .fixed data => .text (bytes .fixed data).plainText
  | .list items => .list (items.map keyForm)
  | v => v

theorem keyForm_list (items : List Value) : (list items).keyForm = .list (items.map keyForm) := by
  rw [keyForm]

theorem Scalar.keyForm_eq {v : Value} (hv : v.Scalar) : v.keyForm = v := by
  cases hv <;> simp only [keyForm]

theorem Scalar.ne_list {v : Value} (hv : v.Scalar) (items : List Value) : v ≠ .list items := by
  rintro rfl
  cases hv

theorem Scalar.isJson {v : Value} (hv : v.Scalar) : v.IsJson := by
  cases hv with
  | null => exact .null
  | bool b => exact .bool b
  | int n => exact .int n
  | text s => exact .text s

theorem LacksJson.keyForm_eq {v : Value} (hv : v.LacksJson) : v.keyForm = .text v.plainText := by
  cases hv <;> rw [keyForm]

theorem LacksJson.writeJson_eq {v : Value} (hv : v.LacksJson) :
    v.writeJson .keyed = .ok (jsonText v.plainText) := by
  cases hv <;> rfl

theorem writeJsonAll_map {style : JsonStyle} {f : Value → Value} {vs : List Value}
    (h : ∀ v ∈ vs, (f v).writeJson style = v.writeJson style) :
    writeJsonAll style (vs.map f) = writeJsonAll style vs := by
  induction vs with
  | nil => rfl
  | cons v vs ih =>
    rw [List.forall_mem_cons] at h
    rw [List.map_cons, writeJsonAll, writeJsonAll, h.1, ih h.2]

theorem Keyed.isJson_keyForm {v : Value} (hv : v.Keyed) : v.keyForm.IsJson := by
  induction hv with
  | scalar h =>
    rw [h.keyForm_eq]
    exact h.isJson
  | plain h =>
    rw [h.keyForm_eq]
    exact .text _
  | list h ih =>
    rw [keyForm_list]
    exact .list (List.forall_mem_map.2 ih)

theorem Keyed.writeJson_keyForm {v : Value} (hv : v.Keyed) :
    v.keyForm.writeJson .keyed = v.writeJson .keyed := by
  induction hv with
  | scalar h => rw [h.keyForm_eq]
  | plain h =>
    rw [h.keyForm_eq, h.writeJson_eq]
    rfl
  | list h ih => rw [keyForm_list, writeJson, writeJson, writeJsonAll_map ih]

mutual

theorem Alike.keyForm_eq : ∀ {u v : Value}, Alike u v → u.keyForm = v.keyForm
  | _, _, .refl _ => rfl
  | _, _, .text h => by rw [h.keyForm_eq, (Scalar.text _).keyForm_eq]
  | _, _, .plain h => by rw [h.keyForm_eq, (Scalar.text _).keyForm_eq]
  | _, _, .list h => by rw [keyForm_list, keyForm_list, Alike.map_keyForm_eq h]

theorem Alike.map_keyForm_eq : ∀ {us vs : List Value}, List.Forall₂ Alike us vs →
    us.map keyForm = vs.map keyForm
  | _, _, .nil => rfl
  | _, _, .cons h hs => by rw [List.map_cons, List.map_cons, h.keyForm_eq, Alike.map_keyForm_eq hs]

end

/-- What is to be shown of each item of a list, whatever value stands in its place in the other. -/
theorem Alike.of_items {us vs : List Value}
    (hus : ∀ u ∈ us, ∀ {v : Value}, v.Keyed → u.keyForm = v.keyForm → Alike u v)
    (hvs : ∀ v ∈ vs, v.Keyed) (h : us.map keyForm = vs.map keyForm) :
    List.Forall₂ Alike us vs := by
  induction us generalizing vs with
  | nil =>
    cases vs with
    | nil => exact .nil
    | cons v vs => cases h
  | cons u us ih =>
    cases vs with
    | nil => cases h
    | cons v vs =>
      rw [List.forall_mem_cons] at hus hvs
      obtain ⟨hhead, htail⟩ := List.cons.inj h
      exact .cons (hus.1 hvs.1 hhead) (ih hus.2 hvs.2 htail)

theorem Keyed.alike_of_keyForm_eq {u v : Value} (hu : u.Keyed) (hv : v.Keyed)
    (h : u.keyForm = v.keyForm) : Alike u v := by
  induction hu generalizing v with
  | scalar hu =>
    rw [hu.keyForm_eq] at h
    cases hv with
    | scalar hv =>
      rw [hv.keyForm_eq] at h
      exact h ▸ .refl _
    | plain hv =>
      rw [hv.keyForm_eq] at h
      exact h ▸ .text hv
    | list hvs =>
      rw [keyForm_list] at h
      exact absurd h (hu.ne_list _)
  | plain hu =>
    rw [hu.keyForm_eq] at h
    cases hv with
    | scalar hv =>
      rw [hv.keyForm_eq] at h
      exact h ▸ .plain hu
    | plain hv =>
      rw [hv.keyForm_eq] at h
      exact hu.plainText_inj hv (Value.text.inj h) ▸ .refl _
    | list hvs =>
      rw [keyForm_list] at h
      cases h
  | list hus ih =>
    rw [keyForm_list] at h
    cases hv with
    | scalar hv =>
      rw [hv.keyForm_eq] at h
      exact absurd h.symm (hv.ne_list _)
    | plain hv =>
      rw [hv.keyForm_eq] at h
      cases h
    | list hvs =>
      rw [keyForm_list, Value.list.injEq] at h
      exact .list (Alike.of_items (fun u hu => ih u hu) hvs h)

/-- **Values are written as one JSON text if and only if they are written alike.** -/
theorem Keyed.writeJson_eq_iff {u v : Value} (hu : u.Keyed) (hv : v.Keyed) :
    u.writeJson .keyed = v.writeJson .keyed ↔ Alike u v := by
  rw [← hu.writeJson_keyForm, ← hv.writeJson_keyForm]
  constructor
  · intro h
    obtain ⟨s, hs⟩ := hu.isJson_keyForm.exists_writeJson .keyed
    exact hu.alike_of_keyForm_eq hv
      (hu.isJson_keyForm.writeJson_inj hv.isJson_keyForm hs (h ▸ hs))
  · intro h
    rw [h.keyForm_eq]

theorem alike_list_iff {us vs : List Value} :
    Alike (.list us) (.list vs) ↔ List.Forall₂ Alike us vs := by
  constructor
  · intro h
    cases h with
    | refl =>
      have : Std.Refl Alike := ⟨.refl⟩
      exact List.forall₂_refl us
    | list h => exact h
  · exact .list

theorem alike_text_iff {s t : String} : Alike (.text s) (.text t) ↔ s = t := by
  constructor
  · intro h
    cases h with
    | refl => rfl
    | text h => cases h
    | plain h => cases h
  · rintro rfl
    exact .refl _

end Value

/-- No collision of digests between the JSON texts of two values. -/
def DigestsApart (u v : Value) : Prop :=
  ∀ s t, u.writeJson .keyed = .ok s → v.writeJson .keyed = .ok t →
    Text.Sha256.digest s.toUTF8.data.toList = Text.Sha256.digest t.toUTF8.data.toList → s = t

theorem digestOf_eq_iff {u v : Value} (hu : u.Keyed) (hv : v.Keyed) (hapart : DigestsApart u v) :
    digestOf u = digestOf v ↔ u.Alike v := by
  obtain ⟨s, hs⟩ := hu.isJson_keyForm.exists_writeJson .keyed
  obtain ⟨t, ht⟩ := hv.isJson_keyForm.exists_writeJson .keyed
  rw [hu.writeJson_keyForm] at hs
  rw [hv.writeJson_keyForm] at ht
  rw [← hu.writeJson_eq_iff hv]
  constructor
  · intro h
    unfold digestOf at h
    rw [hs, ht] at h
    rw [hs, ht, hapart s t hs ht h]
  · intro h
    unfold digestOf
    rw [h]

/-- A statement as the value whose digest is its key. -/
def keyedStatement (sql : String) (bindings : List Value) : Value :=
  .list [.text sql, .list bindings]

theorem keyed_keyedStatement (sql : String) {bindings : List Value}
    (h : ∀ v ∈ bindings, v.Keyed) : (keyedStatement sql bindings).Keyed := by
  refine .list ?_
  rw [List.forall_mem_cons, List.forall_mem_singleton]
  exact ⟨.scalar (.text sql), .list h⟩

theorem alike_keyedStatement_iff {sql sql' : String} {us vs : List Value} :
    (keyedStatement sql us).Alike (keyedStatement sql' vs)
      ↔ sql = sql' ∧ List.Forall₂ Value.Alike us vs := by
  simp only [keyedStatement, Value.alike_list_iff, List.forall₂_cons, Value.alike_text_iff,
    List.Forall₂.nil, and_true]

section Shared

variable {sql sql' : String} {us vs : List Value} (hus : ∀ v ∈ us, v.Keyed)
  (hvs : ∀ v ∈ vs, v.Keyed)
  (hapart : DigestsApart (keyedStatement sql us) (keyedStatement sql' vs))

include hus hvs hapart in
theorem cacheKey_eq_iff :
    cacheKey sql us = cacheKey sql' vs ↔ sql = sql' ∧ List.Forall₂ Value.Alike us vs := by
  rw [← alike_keyedStatement_iff]
  exact digestOf_eq_iff (keyed_keyedStatement sql hus) (keyed_keyedStatement sql' hvs) hapart

namespace Cache

include hus hvs hapart in
/-- **Statements share an entry if and only if their SQL is the same and their bindings are alike.**
Then the one is answered with the rows that were set for the other as long as these are fresh;
otherwise they make no difference to its answer. -/
theorem shared_iff_alike (c : Cache Quantity) (now later : Quantity) (rows : List Row) :
    (cacheKey sql us = cacheKey sql' vs ↔ sql = sql' ∧ List.Forall₂ Value.Alike us vs)
    ∧ (sql = sql' ∧ List.Forall₂ Value.Alike us vs →
      ((c.set now sql us rows).get later sql' vs).1
        = if later < now + c.ttl then some rows else none)
    ∧ (¬(sql = sql' ∧ List.Forall₂ Value.Alike us vs) →
      ((c.set now sql us rows).get later sql' vs).1 = (c.get later sql' vs).1) := by
  have hkeys := cacheKey_eq_iff hus hvs hapart
  refine ⟨hkeys, ?same, ?other⟩
  case same =>
    intro h
    rw [get_fst, ← hkeys.2 h]
    exact fresh?_set c now later sql us rows
  case other =>
    intro h
    have hother : cacheKey sql' vs ≠ cacheKey sql us := fun heq => h (hkeys.1 heq.symm)
    rw [get_fst, get_fst, fresh?_eq, fresh?_eq, lookup_set_other c now sql us rows hother]

end Cache

end Shared

/-! ## Runs -/

namespace Cache

variable {c : Cache Quantity} {h : CacheHistory Quantity}

/-- Each entry has the key of a statement that its rows were set for. -/
def SetDuring (h : CacheHistory Quantity) (c : Cache Quantity) : Prop :=
  ∀ entry ∈ c.entries, ∃ time sql bindings,
    (time, .set sql bindings entry.2.rows) ∈ h ∧ entry.1 = cacheKey sql bindings

theorem SetDuring.of_entries {c' : Cache Quantity} (hc : c.SetDuring h)
    (hsub : ∀ entry ∈ c'.entries, entry ∈ c.entries) (last : Quantity × CacheCall) :
    c'.SetDuring (h ++ [last]) := by
  intro entry hentry
  obtain ⟨time, sql, bindings, hset, hkey⟩ := hc entry (hsub entry hentry)
  exact ⟨time, sql, bindings, List.mem_append_left _ hset, hkey⟩

/-- Every call keeps some of the entries, and one that sets rows adds an entry for them. -/
theorem SetDuring.step (hc : c.SetDuring h) (now : Quantity) (call : CacheCall) :
    (c.call now call).2.SetDuring (h ++ [(now, call)]) := by
  cases call with
  | get sql bindings => exact hc.of_entries (fun entry hentry => get_entries c .. ▸ hentry) _
  | set sql bindings rows =>
    intro entry hentry
    rcases List.mem_cons.1 hentry with rfl | hentry
    · exact ⟨now, sql, bindings, List.mem_concat_self, rfl⟩
    · obtain ⟨time, sql', bindings', hset, hkey⟩ := hc entry (List.mem_filter.1 hentry).1
      exact ⟨time, sql', bindings', List.mem_append_left _ hset, hkey⟩
  | delete sql bindings => exact hc.of_entries (fun entry hentry => (List.mem_filter.1 hentry).1) _
  | clear => exact hc.of_entries (fun entry hentry => absurd hentry List.not_mem_nil) _
  | sweep => exact hc.of_entries (fun entry hentry => (List.mem_filter.1 hentry).1) _
  | stats => exact hc.of_entries (fun entry hentry => hentry) _

theorem setDuring_after (ttl : Quantity) (h : CacheHistory Quantity) :
    (after { ttl } h).SetDuring h := by
  induction h using List.reverseRecOn with
  | nil => exact nofun
  | append_singleton h last ih =>
    rw [after_concat]
    exact ih.step last.1 last.2

/-- **Whatever a cache went through, its answers are rows that were set for alike statements.** -/
theorem set_of_answered (ttl now : Quantity) {sql : String} {vs : List Value} {rows : List Row}
    (hvs : ∀ v ∈ vs, v.Keyed) (hkeyed : ∀ s ∈ h.statements, ∀ v ∈ s.2, v.Keyed)
    (hapart : ∀ s ∈ h.statements,
      DigestsApart (keyedStatement s.1 s.2) (keyedStatement sql vs))
    (hanswer : ((after { ttl } h).get now sql vs).1 = some rows) :
    ∃ time us, (time, .set sql us rows) ∈ h ∧ List.Forall₂ Value.Alike us vs := by
  rw [get_fst, fresh?_eq, Option.bind_eq_some_iff] at hanswer
  obtain ⟨entry, hentry, hfresh⟩ := hanswer
  obtain ⟨-, hrows⟩ := Option.ite_none_right_eq_some.1 hfresh
  obtain ⟨before, rest, hentries, -⟩ := List.lookup_eq_some_iff.1 hentry
  have hmem : (cacheKey sql vs, entry) ∈ (after { ttl } h).entries := by
    rw [hentries]
    exact List.mem_append_right _ List.mem_cons_self
  obtain ⟨time, sql', us, hset, hkey⟩ := setDuring_after ttl h _ hmem
  have hstatement : (sql', us) ∈ h.statements := ⟨_, hset, rfl⟩
  obtain ⟨rfl, halike⟩ :=
    (cacheKey_eq_iff (hkeyed _ hstatement) hvs (hapart _ hstatement)).1 hkey.symm
  rw [← Option.some.inj hrows]
  exact ⟨time, us, hset, halike⟩

end Cache

/-- An empty cache whose entries are fresh for ten seconds. -/
def Cache.tenSeconds : Cache Quantity :=
  { ttl := .int 10 }

/-- A text is not answered with the rows of the number that it shows. -/
theorem Cache.number_unshared :
    ((tenSeconds.set (.int 0) "SELECT 1" [.int 1] [[("id", .int 1)]]).get (.int 1) "SELECT 1"
      [.text "1"]).1 = none := by
  have hdigests : DigestsApart (keyedStatement "SELECT 1" [.int 1])
      (keyedStatement "SELECT 1" [.text "1"]) := by
    intro s t hs ht h
    have hkeys : cacheKey "SELECT 1" [.int 1] ≠ cacheKey "SELECT 1" [.text "1"] := by
      decide +kernel
    unfold cacheKey digestOf at hkeys
    unfold keyedStatement at hs ht
    rw [hs, ht] at hkeys
    exact absurd h hkeys
  have hnumber : ∀ v ∈ [Value.int 1], v.Keyed := List.forall_mem_singleton.2 (.scalar (.int 1))
  have htext : ∀ v ∈ [Value.text "1"], v.Keyed := List.forall_mem_singleton.2 (.scalar (.text "1"))
  have hdiffer : ¬List.Forall₂ Value.Alike [.int 1] [.text "1"] := by
    rintro (_ | ⟨hone, -⟩)
    cases hone with
    | plain h => cases h
  have hother := (shared_iff_alike hnumber htext hdigests tenSeconds (.int 0) (.int 1)
    [[("id", .int 1)]]).2.2 fun h => hdiffer h.2
  rw [hother]
  rfl

/-- But with the rows of the decimal that it shows. -/
theorem Cache.decimal_shared :
    ((tenSeconds.set (.int 0) "SELECT 1" [.decimal (.finite false 1 0)] [[("id", .int 1)]]).get
      (.int 1) "SELECT 1" [.text "1"]).1 = some [[("id", .int 1)]]
    ∧ [Value.decimal (.finite false 1 0)] ≠ [.text "1"] := by
  have hkeys : cacheKey "SELECT 1" [.decimal (.finite false 1 0)]
      = cacheKey "SELECT 1" [.text "1"] := by
    decide +kernel
  constructor
  · rw [get_fst, ← hkeys, fresh?_set]
    rfl
  · nofun

end SqlQuery
