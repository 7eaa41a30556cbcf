import Mathlib.Algebra.GroupWithZero.Nat
import SqlQuery.Collection
import SqlQuery.Proofs.Results

/-!
# Rows by the value of a column

Equality of values that can be keys is an equivalence up to what equals nothing: a key stands for a
class (`Value.keyClass?`), and two keys are equal if they stand for the same one
(`Value.same_iff_keyClass`). All numbers of one magnitude are in one class, whatever their type.

Grouping puts the rows under their keys one after the other. `Collection.Grouped` says how the rows
gathered so far stand, and `Collection.Grouped.step` that one more row keeps it. Indexing takes the
same steps and keeps the last row where grouping keeps all of them (`Collection.alter_map`).
-/

namespace SqlQuery

/-! ## What a key stands for -/

/-- What a value is as a key. -/
inductive KeyClass where
  | null
  | text (s : String)
  | bytes (data : List UInt8)
  | date (d : Date)
  | time (t : Time)
  | moment (m : Moment)
  | number (m : Value.Magnitude)
  | tuple (parts : List KeyClass)

namespace Value

/-- The class of a number, none for what is not a number. -/
def Magnitude.keyClass? : Magnitude → Option KeyClass
  | .nan => none
  | m => some (.number m)

mutual

/-- The class of a value, none if nothing equals it. -/
def keyClass? : Value → Option KeyClass
  | null => some .null
  | text s => some (.text s)
  | bytes _ data => some (.bytes data)
  | date d => some (.date d)
  | time t => some (.time t)
  | moment m => some (.moment m)
  | tuple items => (keyClasses? items).map .tuple
  | v => v.magnitude?.bind Magnitude.keyClass?

def keyClasses? : List Value → Option (List KeyClass)
  | [] => some []
  | v :: vs => v.keyClass?.bind fun k => (keyClasses? vs).map (k :: ·)

end

theorem Magnitude.keyClass?_eq_some_iff {m : Magnitude} {k : KeyClass} :
    m.keyClass? = some k ↔ m ≠ .nan ∧ k = .number m := by
  cases m <;> simp [keyClass?, eq_comm]

theorem Magnitude.same_iff {m n : Magnitude} : m.same n = true ↔ m ≠ .nan ∧ m = n := by
  cases m with
  | nan => exact iff_of_false (fun h => nomatch h) fun h => h.1 rfl
  | infinite | finite =>
    cases n with
    | nan => exact iff_of_false (fun h => nomatch h) fun h => nomatch h.2
    | infinite | finite =>
      exact beq_iff_eq.trans ⟨fun h => ⟨nofun, h⟩, fun h => h.2⟩

theorem Magnitude.same_iff_keyClass {m n : Magnitude} :
    m.same n = true ↔ ∃ k, m.keyClass? = some k ∧ n.keyClass? = some k := by
  simp only [same_iff, keyClass?_eq_some_iff]
  grind

theorem keyClass?_of_magnitude {v : Value} {m : Magnitude} (h : v.magnitude? = some m) :
    v.keyClass? = m.keyClass? := by
  cases v with
  | bool | int | double | decimal =>
    simp only [keyClass?, h]
    rfl
  | _ => cases h

/-- Only numbers are in the class of a number. -/
theorem keyClass?_eq_number {v : Value} {m : Magnitude} (h : v.keyClass? = some (.number m)) :
    v.magnitude? = some m := by
  cases hv : v.magnitude? with
  | some n =>
    rw [keyClass?_of_magnitude hv, Magnitude.keyClass?_eq_some_iff] at h
    cases h.2
    rfl
  | none =>
    cases v with
    | bool | int | double | decimal | list | mapping | iterator =>
      simp only [keyClass?, hv] at h
      cases h
    | tuple items =>
      rw [keyClass?, Option.map_eq_some_iff] at h
      obtain ⟨parts, -, h⟩ := h
      cases h
    | _ => cases h

/-- A number equals numbers only. -/
theorem same_of_magnitude {v : Value} {m : Magnitude} (h : v.magnitude? = some m) (w : Value) :
    v.same w = (w.magnitude?.map m.same).getD false := by
  cases v with
  | bool | int | double | decimal =>
    cases hw : w.magnitude? <;> simp only [same, h, hw] <;> rfl
  | _ => cases h

theorem same_of_no_magnitude {v : Value} (h : v.magnitude? = none) {w : Value} {n : Magnitude}
    (hw : w.magnitude? = some n) : v.same w = false := by
  cases w with
  | bool | int | double | decimal => cases v <;> simp only [same, h, hw]
  | _ => cases hw

theorem unhashable?_tuple_cons {v : Value} {vs : List Value}
    (h : (tuple (v :: vs)).unhashable? = none) :
    v.unhashable? = none ∧ (tuple vs).unhashable? = none := by
  rw [unhashable?, unhashable?.unhashableIn?] at h
  split at h
  · cases h
  · exact ⟨‹_›, by rwa [unhashable?]⟩

/-- A number equals what is in its class. -/
theorem same_iff_keyClass_of_magnitude {v : Value} {m : Magnitude} (hm : v.magnitude? = some m)
    (w : Value) :
    v.same w = true ↔ ∃ k, v.keyClass? = some k ∧ w.keyClass? = some k := by
  rw [same_of_magnitude hm, keyClass?_of_magnitude hm]
  cases hn : w.magnitude? with
  | some n =>
    rw [keyClass?_of_magnitude hn]
    exact Magnitude.same_iff_keyClass
  | none =>
    refine iff_of_false (fun h => nomatch h) ?_
    rintro ⟨k, hk, hk'⟩
    rw [Magnitude.keyClass?_eq_some_iff] at hk
    rw [hk.2] at hk'
    rw [keyClass?_eq_number hk'] at hn
    cases hn

mutual

theorem same_iff_keyClass (v w : Value) (hv : v.unhashable? = none) (hw : w.unhashable? = none) :
    v.same w = true ↔ ∃ k, v.keyClass? = some k ∧ w.keyClass? = some k := by
  cases hm : v.magnitude? with
  | some m => exact same_iff_keyClass_of_magnitude hm w
  | none =>
    cases hn : w.magnitude? with
    | some n =>
      rw [same_of_no_magnitude hm hn, keyClass?_of_magnitude hn]
      refine iff_of_false (fun h => nomatch h) ?_
      rintro ⟨k, hk, hk'⟩
      rw [Magnitude.keyClass?_eq_some_iff] at hk'
      rw [hk'.2] at hk
      rw [keyClass?_eq_number hk] at hm
      cases hm
    | none =>
      match v with
      | tuple items =>
        cases w with
        | tuple others =>
          simp only [same, keyClass?, Option.map_eq_some_iff]
          rw [sameAll_iff_keyClasses items others hv hw]
          grind
        | list | mapping => cases hw
        | bool | int | double | decimal | iterator => simp [same, keyClass?, hn]
        | _ => simp [same, keyClass?, magnitude?]
      | .list _ | .mapping _ => cases hv
      | .bool _ | .int _ | .double _ | .decimal _ | .iterator _ =>
        cases w <;> simp [same, keyClass?, hm]
      | .null | .text _ | .bytes .. | .date _ | .time _ | .moment _ =>
        cases w with
        | list | mapping => cases hw
        | bool | int | double | decimal | iterator => simp [same, keyClass?, hn]
        | _ =>
          simp only [same, keyClass?, magnitude?, Option.map_eq_some_iff]
          grind

theorem sameAll_iff_keyClasses (vs ws : List Value) (hv : (tuple vs).unhashable? = none)
    (hw : (tuple ws).unhashable? = none) :
    sameAll vs ws = true ↔ ∃ ks, keyClasses? vs = some ks ∧ keyClasses? ws = some ks := by
  match vs, ws with
  | [], [] => simp [sameAll, keyClasses?]
  | v :: vs, [] | [], v :: vs => simp [sameAll, keyClasses?, Option.bind_eq_some_iff]
  | v :: vs, w :: ws =>
    simp only [sameAll, keyClasses?, Bool.and_eq_true]
    rw [same_iff_keyClass v w (unhashable?_tuple_cons hv).1 (unhashable?_tuple_cons hw).1,
      sameAll_iff_keyClasses vs ws (unhashable?_tuple_cons hv).2 (unhashable?_tuple_cons hw).2]
    simp only [Option.bind_eq_some_iff, Option.map_eq_some_iff]
    grind

end

variable {k u v w : Value}

theorem same_comm (hv : v.unhashable? = none) (hw : w.unhashable? = none) :
    v.same w = w.same v := by
  rw [Bool.eq_iff_iff, same_iff_keyClass v w hv hw, same_iff_keyClass w v hw hv]
  simp only [and_comm]

/-- What equals a value equals the same values. -/
theorem same_congr (hu : u.unhashable? = none) (hv : v.unhashable? = none)
    (hw : w.unhashable? = none) (h : u.same v = true) : u.same w = v.same w := by
  obtain ⟨k, huk, hvk⟩ := (same_iff_keyClass u v hu hv).1 h
  rw [Bool.eq_iff_iff, same_iff_keyClass u w hu hw, same_iff_keyClass v w hv hw, huk, hvk]

theorem same_self_of_same (hv : v.unhashable? = none) (hw : w.unhashable? = none)
    (h : v.same w = true) : v.same v = true := by
  rw [same_congr hv hw hv h, same_comm hw hv, h]

end Value

namespace Collection

/-! ## Keys in order -/

/-- Values that can be keys. -/
def Keys (values : List Value) : Prop :=
  ∀ v ∈ values, v.unhashable? = none

/-- Of equal keys the one that comes first, in order. -/
def firstSpellings : List Value → List Value
  | [] => []
  | k :: rest => k :: (firstSpellings rest).filter fun j => !k.same j

theorem mem_of_mem_firstSpellings {k : Value} {keys : List Value} (h : k ∈ firstSpellings keys) :
    k ∈ keys := by
  induction keys with
  | nil => exact h
  | cons j rest ih =>
    rw [firstSpellings, List.mem_cons, List.mem_filter] at h
    exact List.mem_cons.2 (h.imp_right fun h => ih h.1)

/-- Spellings are of different keys. -/
theorem firstSpellings_distinct (keys : List Value) :
    (firstSpellings keys).Pairwise fun j k => j.same k = false := by
  induction keys with
  | nil => exact .nil
  | cons k rest ih =>
    refine .cons (fun j hj => ?_) (ih.filter _)
    rw [← Bool.not_eq_true']
    exact (List.mem_filter.1 hj).2

section Last

variable {keys : List Value} {k : Value}

/-- A key that comes last and equals none before it is a spelling of its own. -/
theorem firstSpellings_new (hkeys : Keys keys) (hk : k.unhashable? = none)
    (h : ∀ j ∈ firstSpellings keys, j.same k = false) :
    firstSpellings (keys ++ [k]) = firstSpellings keys ++ [k] := by
  induction keys with
  | nil => rfl
  | cons j rest ih =>
    obtain ⟨hj, hrest⟩ := List.forall_mem_cons.1 hkeys
    rw [firstSpellings, List.forall_mem_cons] at h
    have others : ∀ i ∈ firstSpellings rest, i.same k = false := by
      intro i hi
      cases hji : j.same i with
      | false => exact h.2 i (List.mem_filter.2 ⟨hi, by rw [hji]; rfl⟩)
      | true => rw [← Value.same_congr hj (hrest i (mem_of_mem_firstSpellings hi)) hk hji, h.1]
    rw [List.cons_append, firstSpellings, ih hrest others, firstSpellings, List.filter_append,
      List.filter_singleton, h.1]
    rfl

/-- A key that comes last and equals one before it is spelled as that one. -/
theorem firstSpellings_old (hkeys : Keys keys) (hk : k.unhashable? = none)
    (h : ∃ j ∈ firstSpellings keys, j.same k = true) :
    firstSpellings (keys ++ [k]) = firstSpellings keys := by
  induction keys with
  | nil => exact nomatch h
  | cons j rest ih =>
    obtain ⟨hj, hrest⟩ := List.forall_mem_cons.1 hkeys
    rw [List.cons_append, firstSpellings, firstSpellings]
    by_cases hold : ∃ i ∈ firstSpellings rest, i.same k = true
    · rw [ih hrest hold]
    · -- Then it is the first key that it equals.
      have hjk : j.same k = true := by
        obtain ⟨i, hi, hik⟩ := h
        rw [firstSpellings, List.mem_cons] at hi
        obtain rfl | hi := hi
        · exact hik
        · exact absurd ⟨i, (List.mem_filter.1 hi).1, hik⟩ hold
      rw [firstSpellings_new hrest hk (by simpa using hold), List.filter_append,
        List.filter_singleton, hjk]
      exact congrArg _ (List.append_nil _)

end Last

/-! ## Changing what is under a key -/

variable {α β : Type}

/-- What is under a key is changed in its place, or the key is added at the end. -/
theorem alter_cases (key : Value) (entries : Keyed α) :
    (∃ before k x after, entries = before ++ (k, x) :: after
      ∧ (∀ e ∈ before, e.1.same key = false) ∧ k.same key = true
      ∧ ∀ f, alter key f entries = before ++ (k, f (some x)) :: after)
    ∨ (∀ e ∈ entries, e.1.same key = false)
      ∧ ∀ f, alter key f entries = entries ++ [(key, f none)] := by
  induction entries with
  | nil => exact .inr ⟨List.forall_mem_nil _, fun _ => rfl⟩
  | cons e rest ih =>
    obtain ⟨k, x⟩ := e
    cases hk : k.same key with
    | true => exact .inl ⟨[], k, x, rest, rfl, List.forall_mem_nil _, hk, fun f => if_pos hk⟩
    | false =>
      have skipped (f : Option α → α) :
          alter key f ((k, x) :: rest) = (k, x) :: alter key f rest :=
        if_neg (ne_true_of_eq_false hk)
      obtain ⟨before, j, y, after, rfl, hbefore, hj, hf⟩ | ⟨hnone, hf⟩ := ih
      · refine .inl ⟨(k, x) :: before, j, y, after, rfl, List.forall_mem_cons.2 ⟨hk, hbefore⟩, hj,
          fun f => ?_⟩
        rw [skipped, hf, List.cons_append]
      · refine .inr ⟨List.forall_mem_cons.2 ⟨hk, hnone⟩, fun f => ?_⟩
        rw [skipped, hf, List.cons_append]

/-- A change is seen through what is kept of the things under the keys. -/
theorem alter_map (key : Value) {f : Option α → α} (f' : Option β → β) {g : α → β}
    (hf : ∀ x, g (f x) = f' (x.map g)) (entries : Keyed α) :
    (alter key f entries).map (fun e => (e.1, g e.2))
      = alter key f' (entries.map fun e => (e.1, g e.2)) := by
  induction entries with
  | nil => simp only [alter, List.map_cons, List.map_nil, hf, Option.map_none]
  | cons e rest ih =>
    simp only [alter, List.map_cons]
    split
    · simp only [List.map_cons, hf, Option.map_some]
    · simp only [List.map_cons, ih]

/-! ## Rows under their keys -/

/-- Rows put under their keys one after the other. -/
def gather (key : Row → Value) (rows : List Row) : Keyed (List Row) :=
  rows.foldl (fun groups row => alter (key row) (fun g => g.getD [] ++ [row]) groups) []

/-- A key with the rows that belong to it. -/
structure IsGroup (key : Row → Value) (rows : List Row) (e : Value × List Row) : Prop where
  /-- The group is all rows with the key, in order. -/
  members : e.1.same e.1 = true → e.2 = rows.filter fun row => e.1.same (key row)
  /-- What does not even equal itself has a row to itself. -/
  alone : e.1.same e.1 = false → ∃ row ∈ rows, key row = e.1 ∧ e.2 = [row]

/-- Groups hold rows by their keys. -/
structure Grouped (key : Row → Value) (rows : List Row) (groups : Keyed (List Row)) : Prop where
  /-- The keys are in the order in which they first occurred, and spelled as they did. -/
  keys : groups.map (·.1) = firstSpellings (rows.map key)
  each : ∀ e ∈ groups, IsGroup key rows e
  /-- Every row is there as often as it was. -/
  once : (groups.flatMap (·.2)).Perm rows

section Step

variable {key : Row → Value} {rows : List Row} {row : Row} {e : Value × List Row}
  {groups : Keyed (List Row)}

/-- A row with another key does not matter to a group. -/
theorem IsGroup.other (h : IsGroup key rows e) (hrow : e.1.same (key row) = false) :
    IsGroup key (rows ++ [row]) e where
  members hself := by
    rw [List.filter_append, List.filter_singleton, hrow, cond_false, List.append_nil]
    exact h.members hself
  alone hself := by
    obtain ⟨own, hown, h⟩ := h.alone hself
    exact ⟨own, List.mem_append_left _ hown, h⟩

namespace Grouped

theorem nil (key : Row → Value) : Grouped key [] [] where
  keys := rfl
  each _ h := nomatch h
  once := .nil

theorem key_mem (h : Grouped key rows groups) (he : e ∈ groups) : e.1 ∈ rows.map key := by
  apply mem_of_mem_firstSpellings
  rw [← h.keys]
  exact List.mem_map_of_mem he

theorem distinct (h : Grouped key rows groups) :
    groups.Pairwise fun e e' => e.1.same e'.1 = false := by
  have spellings := firstSpellings_distinct (rows.map key)
  rwa [← h.keys, List.pairwise_map] at spellings

/-- A row whose key equals itself is in no group but that of its key. -/
theorem key_of_mem (h : Grouped key rows groups) (he : e ∈ groups) (hmem : row ∈ e.2)
    (hself : (key row).same (key row) = true) : e.1.same (key row) = true := by
  cases hk : e.1.same e.1 with
  | true =>
    rw [(h.each e he).members hk] at hmem
    exact (List.mem_filter.1 hmem).2
  | false =>
    obtain ⟨own, -, hkey, hsingle⟩ := (h.each e he).alone hk
    rw [hsingle, List.mem_singleton] at hmem
    rw [hmem, hkey, hk] at hself
    cases hself

theorem exists_group (h : Grouped key rows groups) (hrow : row ∈ rows) :
    ∃ e ∈ groups, row ∈ e.2 :=
  List.mem_flatMap.1 (h.once.mem_iff.2 hrow)

/-- A row whose key equals itself is in one group. -/
theorem one_group (h : Grouped key rows groups) (hkeys : Keys (rows.map key)) (hrow : row ∈ rows)
    (hself : (key row).same (key row) = true) :
    ∃ (i : Nat) (e : Value × List Row), groups[i]? = some e ∧ row ∈ e.2
      ∧ ∀ (j : Nat) (e' : Value × List Row), groups[j]? = some e' → row ∈ e'.2 → j = i := by
  have hashrow := hkeys (key row) (List.mem_map_of_mem hrow)
  -- Two places with the row would have equal keys.
  have apart {i j : Nat} {e e' : Value × List Row} (hi : groups[i]? = some e)
      (hj : groups[j]? = some e') (hmem : row ∈ e.2) (hmem' : row ∈ e'.2) : ¬i < j := by
    intro hij
    have he := List.mem_of_getElem? hi
    have he' := List.mem_of_getElem? hj
    have hashe' := hkeys _ (h.key_mem he')
    obtain ⟨hilt, rfl⟩ := List.getElem?_eq_some_iff.1 hi
    obtain ⟨hjlt, rfl⟩ := List.getElem?_eq_some_iff.1 hj
    have differ := List.pairwise_iff_getElem.1 h.distinct i j hilt hjlt hij
    rw [Value.same_congr (hkeys _ (h.key_mem he)) hashrow hashe' (h.key_of_mem he hmem hself),
      Value.same_comm hashrow hashe', h.key_of_mem he' hmem' hself] at differ
    cases differ
  obtain ⟨e, he, hmem⟩ := h.exists_group hrow
  obtain ⟨i, hi⟩ := List.mem_iff_getElem?.1 he
  refine ⟨i, e, hi, hmem, fun j e' hj hmem' => ?_⟩
  exact Nat.le_antisymm (Nat.not_lt.1 (apart hi hj hmem hmem'))
    (Nat.not_lt.1 (apart hj hi hmem' hmem))

theorem sum_sizes (h : Grouped key rows groups) :
    (groups.map fun e => e.2.length).sum = rows.length := by
  rw [← h.once.length_eq, List.length_flatMap]

/-- A row is added to the group of its key. -/
theorem join {before after : Keyed (List Row)} {k : Value} {x : List Row}
    (h : Grouped key rows (before ++ (k, x) :: after)) (hkeys : Keys (rows.map key))
    (hrow : (key row).unhashable? = none) (hbefore : ∀ e ∈ before, e.1.same (key row) = false)
    (hk : k.same (key row) = true) :
    Grouped key (rows ++ [row]) (before ++ (k, x ++ [row]) :: after) where
  keys := by
    have spelled : firstSpellings ((rows ++ [row]).map key) = firstSpellings (rows.map key) := by
      rw [List.map_append]
      refine firstSpellings_old hkeys hrow ⟨k, ?_, hk⟩
      rw [← h.keys]
      exact List.mem_map_of_mem (List.mem_append_right _ (List.mem_cons_self ..))
    rw [spelled, ← h.keys, List.map_append, List.map_append]
    rfl
  each := by
    have hashable : ∀ e ∈ before ++ (k, x) :: after, e.1.unhashable? = none :=
      fun e he => hkeys e.1 (h.key_mem he)
    simp only [List.forall_mem_append, List.forall_mem_cons] at hashable
    obtain ⟨-, hashk, hashafter⟩ := hashable
    have hafter : ∀ e ∈ after, e.1.same (key row) = false := by
      intro e he
      have apart := (List.pairwise_cons.1 (List.pairwise_append.1 h.distinct).2.1).1 e he
      rwa [Value.same_congr hashk hrow (hashafter e he) hk, Value.same_comm hrow (hashafter e he)]
        at apart
    have each := h.each
    simp only [List.forall_mem_append, List.forall_mem_cons] at each ⊢
    obtain ⟨heach, hx, heach'⟩ := each
    have hself := Value.same_self_of_same hashk hrow hk
    refine ⟨fun e he => (heach e he).other (hbefore e he), ⟨fun _ => ?_, fun hne => ?_⟩,
      fun e he => (heach' e he).other (hafter e he)⟩
    · show x ++ [row] = _
      rw [List.filter_append, ← hx.members hself, List.filter_singleton, hk, cond_true]
    · exact absurd hself (ne_true_of_eq_false hne)
  once := by
    have once := h.once.append_right [row]
    simp only [List.flatMap_append, List.flatMap_cons, List.append_assoc] at once ⊢
    refine .trans (.append_left _ (.append_left _ List.perm_append_comm)) once

/-- A row with a key that is not there yet is a group. -/
theorem add (h : Grouped key rows groups) (hkeys : Keys (rows.map key))
    (hrow : (key row).unhashable? = none) (hnone : ∀ e ∈ groups, e.1.same (key row) = false) :
    Grouped key (rows ++ [row]) (groups ++ [(key row, [row])]) where
  keys := by
    rw [List.map_append, List.map_append, List.map_singleton, List.map_singleton,
      firstSpellings_new hkeys hrow, h.keys]
    rw [← h.keys]
    exact List.forall_mem_map.2 hnone
  each := by
    rw [List.forall_mem_append]
    refine ⟨fun e he => (h.each e he).other (hnone e he),
      List.forall_mem_singleton.2 ⟨fun hself => ?_, fun _ => ?_⟩⟩
    · -- No row before it has its key, for then there would be a group of that key.
      have none_before : rows.filter (fun r => (key row).same (key r)) = [] := by
        refine List.filter_eq_nil_iff.2 fun r hr hsame => ?_
        have hashr := hkeys (key r) (List.mem_map_of_mem hr)
        rw [Value.same_comm hrow hashr] at hsame
        obtain ⟨e, he, hmem⟩ := h.exists_group hr
        have her := h.key_of_mem he hmem (Value.same_self_of_same hashr hrow hsame)
        have hashe := hkeys e.1 (h.key_mem he)
        rw [← Value.same_congr hashe hashr hrow her, hnone e he] at hsame
        cases hsame
      rw [List.filter_append, none_before, List.filter_singleton, hself]
      rfl
    · exact ⟨row, List.mem_append_right _ (List.mem_singleton_self row), rfl, rfl⟩
  once := by
    rw [List.flatMap_append]
    exact h.once.append_right [row]

/-- One more row. -/
theorem step (h : Grouped key rows groups) (hkeys : Keys (rows.map key))
    (hrow : (key row).unhashable? = none) :
    Grouped key (rows ++ [row])
      (alter (key row) (fun g => g.getD [] ++ [row]) groups) := by
  obtain ⟨before, k, x, after, rfl, hbefore, hk, halter⟩ | ⟨hnone, halter⟩ :=
    alter_cases (key row) groups
  · rw [halter]
    exact h.join hkeys hrow hbefore hk
  · rw [halter]
    exact h.add hkeys hrow hnone

end Grouped

/-- Rows one after the other. -/
theorem Grouped.run (rest : List Row) (h : Grouped key rows groups)
    (hkeys : Keys ((rows ++ rest).map key)) :
    Grouped key (rows ++ rest)
      (rest.foldl (fun groups row => alter (key row) (fun g => g.getD [] ++ [row]) groups)
        groups) := by
  induction rest generalizing rows groups with
  | nil => rwa [List.append_nil]
  | cons row rest ih =>
    rw [List.append_cons] at hkeys ⊢
    have hseen : Keys ((rows ++ [row]).map key) := fun k hk =>
      hkeys k (by rw [List.map_append]; exact List.mem_append_left _ hk)
    rw [Keys, List.map_append, List.forall_mem_append] at hseen
    exact ih (h.step hseen.1 (hseen.2 _ (List.mem_singleton_self _))) hkeys

theorem gather_grouped (key : Row → Value) (rows : List Row) (h : Keys (rows.map key)) :
    Grouped key rows (gather key rows) :=
  (Grouped.nil key).run rows h

end Step

/-! ## Groups and index -/

/-- Where every row has a key, rows are put under the values of a column without fail. -/
theorem foldlM_alter {column : String} (f : Row → Option α → α) {rows : List Row}
    (h : Keys (rows.map (·.get column))) (entries : Keyed α) :
    (rows.foldlM (fun acc row => do
        return alter (← asKey (← lookUp (.text column) row)) (f row) acc) entries : Result _)
      = .ok (rows.foldl (fun acc row => alter (row.get column) (f row) acc) entries) := by
  induction rows generalizing entries with
  | nil => rfl
  | cons row rest ih =>
    rw [List.map_cons, Keys, List.forall_mem_cons] at h
    have hkey : asKey (row.get column) = .ok (row.get column) := by
      rw [asKey, h.1]
    rw [List.foldlM_cons, List.foldl_cons, ← ih h.2]
    show (asKey (row.get column) >>= fun k => pure (alter k (f row) entries)) >>= _ = _
    rw [hkey]
    rfl

/-- Groups and index take the same steps, and the index keeps the last row of each group. -/
theorem index_eq_lasts (key : Row → Value) (rows : List Row) (index : Keyed Row)
    (groups : Keyed (List Row))
    (h : index.map (fun e => (e.1, some e.2)) = groups.map fun e => (e.1, e.2.getLast?)) :
    (rows.foldl (fun acc row => alter (key row) (fun _ => row) acc) index).map
        (fun e => (e.1, some e.2))
      = (rows.foldl (fun acc row => alter (key row) (fun g => g.getD [] ++ [row]) acc) groups).map
        fun e => (e.1, e.2.getLast?) := by
  induction rows generalizing index groups with
  | nil => exact h
  | cons row rest ih =>
    apply ih
    rw [alter_map (key row) (fun _ => some row) (fun _ => rfl),
      alter_map (key row) (fun _ => some row) (fun _ => List.getLast?_concat), h]

/-- **Grouping by a column splits the rows, and indexing keeps the last row of each group.** Keys
that are equal are one key, whatever their type, and a row without the column has null as its key.
A row whose key equals itself is in the group of its key and in no other, a group has all rows with
its key in order, and the groups stand in the order in which their keys first occurred, spelled as
they did. Both operations succeed whenever the values of the column can be keys. -/
theorem groupBy_splits_rows (c : Collection) (column : String) (h : Keys (c.pluck column)) :
    ∃ groups index, c.groupBy column = .ok groups ∧ c.keyBy column = .ok index
      ∧ Grouped (·.get column) c.rows (groups.map fun e => (e.1, e.2.rows))
      ∧ (∀ row ∈ c.rows, (row.get column).same (row.get column) = true →
          ∃ (i : Nat) (e : Value × Collection), groups[i]? = some e ∧ row ∈ e.2.rows
            ∧ ∀ (j : Nat) (e' : Value × Collection),
              groups[j]? = some e' → row ∈ e'.2.rows → j = i)
      ∧ (groups.map fun e => e.2.count).sum = c.count
      ∧ index.map (fun e => (e.1, some e.2)) = groups.map fun e => (e.1, e.2.last) := by
  have grouped := gather_grouped (·.get column) c.rows h
  refine ⟨(gather (·.get column) c.rows).map fun e => (e.1, ⟨e.2⟩),
    c.rows.foldl (fun acc row => alter (row.get column) (fun _ => row) acc) [], ?_, ?_, ?_, ?_, ?_,
    ?_⟩
  · rw [groupBy, groupByKey, foldlM_alter (fun row g => g.getD [] ++ [row]) h]
    rfl
  · exact foldlM_alter (fun row _ => row) h []
  · rw [List.map_map]
    exact (List.map_id _).symm ▸ grouped
  · intro row hrow hself
    obtain ⟨i, e, hi, hmem, hone⟩ := grouped.one_group h hrow hself
    refine ⟨i, (e.1, ⟨e.2⟩), ?_, hmem, fun j e' hj hmem' => ?_⟩
    · rw [List.getElem?_map, hi, Option.map_some]
    · rw [List.getElem?_map, Option.map_eq_some_iff] at hj
      obtain ⟨e', hj, rfl⟩ := hj
      exact hone j e' hj hmem'
  · rw [List.map_map]
    exact grouped.sum_sizes
  · rw [index_eq_lasts _ c.rows [] [] rfl, List.map_map]
    rfl

/-- Numbers of four types that are one are one key, and a row without the column is in the group of
null. -/
theorem groupBy_splits_ones :
    let c : Collection := ⟨[[("k", .int 1)], [("k", .null)], [("k", .double (.ofInt 1))],
      [("k", .bool true)], [], [("k", .decimal (.finite false 1 0))]]⟩
    Keys (c.pluck "k")
      ∧ (c.groupBy "k").toOption.map (·.map fun e => (e.1.inspect, e.2.count))
        = some [("1", 4), ("None", 2)]
      ∧ ∃ groups index, c.groupBy "k" = .ok groups ∧ c.keyBy "k" = .ok index
        ∧ Grouped (·.get "k") c.rows (groups.map fun e => (e.1, e.2.rows))
        ∧ (groups.map fun e => e.2.count).sum = 6
        ∧ index.map (fun e => (e.1, some e.2)) = groups.map fun e => (e.1, e.2.last) := by
  intro c
  have h : Keys (c.pluck "k") := by
    unfold Keys
    decide
  obtain ⟨groups, index, hgroups, hindex, hgrouped, -, hsizes, hlast⟩ := groupBy_splits_rows c "k" h
  exact ⟨h, by decide, groups, index, hgroups, hindex, hgrouped, hsizes, hlast⟩

end Collection

end SqlQuery
