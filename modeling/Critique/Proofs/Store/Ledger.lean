/-
# What a server holds, as a ledger

A server hands out the numbers one, two, three and so on, and under each of them there is a record
or there is none: a failed batch leaves a number without a record.  A ledger is that list, and
`Holds` says that the counter, the texts and the index of a server are the ones of a ledger.  The
three are written by two commands, so the relation is shown to survive each of them alone:
`Holds.counted` for the count, which leaves a gap at the end of the ledger, and `Holds.filled` for
the batch, which fills the gap.

* `Holds.counted` and `Holds.filled`: what the two commands do to the relation;
* `Ledger.Numbered.pairwise_kept`: the records of a ledger are in ascending order of their numbers.
-/
import Critique.Proofs.RecordCodec

namespace Critique

/-! ## 1. Limits -/

/-- A limit takes from the front; a negative one is counted from the end. -/
theorem slice_eq_take {α : Type} (limit : Int) (xs : List α) :
    slice limit xs = xs.take (if 0 ≤ limit then limit.toNat else xs.length - limit.natAbs) := by
  cases limit <;> simp [slice]

theorem map_slice {α β : Type} (f : α → β) (limit : Int) (xs : List α) :
    (slice limit xs).map f = slice limit (xs.map f) := by
  rw [slice_eq_take, slice_eq_take, List.map_take, List.length_map]

theorem mem_of_mem_slice {α : Type} {limit : Int} {xs : List α} {x : α} (h : x ∈ slice limit xs) :
    x ∈ xs := by
  rw [slice_eq_take] at h
  exact List.mem_of_mem_take h

namespace Remote

/-! ## 2. Ledgers -/

/-- What was kept under each number that was handed out, from one on. -/
abbrev Ledger := List (Option Record)

namespace Ledger

/-- The record of a number. -/
def find? (l : Ledger) : Int → Option Record
  | .ofNat (k + 1) => l[k]?.join
  | _ => none

/-- The records that were kept, in the order of their numbers. -/
def kept (l : Ledger) : List Record :=
  l.filterMap id

@[simp] theorem find?_nil (id : Int) : find? [] id = none := by
  unfold find?
  split <;> simp

theorem find?_succ (l : Ledger) (k : Nat) : find? l ((k : Int) + 1) = l[k]?.join := rfl

@[simp] theorem kept_nil : kept [] = [] := rfl

@[simp] theorem kept_append (l : Ledger) (entry : Option Record) :
    kept (l ++ [entry]) = kept l ++ entry.toList := by
  cases entry <;> simp [kept]

/-- The next number finds what was put in last, and every other one what it found before. -/
theorem find?_append (l : Ledger) (entry : Option Record) (id : Int) :
    find? (l ++ [entry]) id = if id = l.length + 1 then entry else find? l id := by
  unfold find?
  split
  · rename_i k
    rcases Nat.lt_trichotomy k l.length with h | h | h
    · rw [if_neg (by simp; omega), List.getElem?_append_left h]
    · rw [if_pos (by simp; omega), h, List.getElem?_concat_length]
      cases entry <;> rfl
    · rw [if_neg (by simp; omega), List.getElem?_eq_none (by simp; omega),
        List.getElem?_eq_none (by omega)]
  · rename_i hid
    rw [if_neg fun h => hid l.length (by simp; omega)]

/-- The next number finds nothing yet. -/
theorem find?_next (l : Ledger) : find? l (l.length + 1) = none := by
  rw [find?_succ, List.getElem?_eq_none (Nat.le_refl _)]
  rfl

theorem find?_eq_some {l : Ledger} {id : Int} {r : Record} (h : find? l id = some r) :
    ∃ k : Nat, id = k + 1 ∧ l[k]? = some (some r) := by
  unfold find? at h
  split at h
  · rename_i k
    exact ⟨k, rfl, Option.join_eq_some_iff.mp h⟩
  · exact absurd h (by simp)

/-- The numbers begin with one. -/
theorem pos_of_isSome {l : Ledger} {id : Int} (h : (l.find? id).isSome) : 0 < id := by
  obtain ⟨r, hr⟩ := Option.isSome_iff_exists.mp h
  obtain ⟨k, rfl, -⟩ := find?_eq_some hr
  omega

theorem mem_kept {l : Ledger} {r : Record} : r ∈ l.kept ↔ ∃ id, l.find? id = some r := by
  constructor
  · intro h
    obtain ⟨entry, hentry, rfl⟩ : ∃ entry ∈ l, entry = some r := by
      simpa [kept, List.mem_filterMap] using h
    obtain ⟨k, hk⟩ := List.getElem?_of_mem hentry
    exact ⟨k + 1, by rw [find?_succ, hk]; rfl⟩
  · rintro ⟨id, h⟩
    obtain ⟨k, -, hk⟩ := find?_eq_some h
    exact List.mem_filterMap.mpr ⟨some r, List.mem_of_getElem? hk, rfl⟩

theorem length_kept_le (l : Ledger) : l.kept.length ≤ l.length :=
  List.length_filterMap_le _ _

/-- Every record of a ledger carries the number under which it is found. -/
def Numbered (l : Ledger) : Prop :=
  ∀ id r, l.find? id = some r → r.id = id

/-- A ledger stays numbered where its next entry carries the next number. -/
theorem Numbered.append {l : Ledger} (h : l.Numbered) {entry : Option Record}
    (hentry : ∀ r ∈ entry, r.id = l.length + 1) : Numbered (l ++ [entry]) := by
  intro id r hr
  rw [find?_append] at hr
  split at hr
  · rename_i hid
    rw [hid]
    exact hentry r hr
  · exact h id r hr

/-- A gap at the end says nothing about the records before it. -/
theorem Numbered.of_append {l : Ledger} (h : Numbered (l ++ [none])) : l.Numbered := by
  intro id r hr
  refine h id r ?_
  rw [find?_append, if_neg ?_, hr]
  rintro rfl
  rw [find?_next] at hr
  exact absurd hr (by simp)

theorem Numbered.find?_id {l : Ledger} (h : l.Numbered) {r : Record} (hr : r ∈ l.kept) :
    l.find? r.id = some r := by
  obtain ⟨id, hid⟩ := mem_kept.mp hr
  rw [h id r hid, hid]

/-- The records of a ledger are in ascending order of their numbers. -/
theorem Numbered.pairwise_kept {l : Ledger} (h : l.Numbered) :
    l.kept.Pairwise fun a b => a.id < b.id := by
  have position : ∀ (k : Nat) r, l[k]? = some (some r) → r.id = k + 1 := by
    intro k r hk
    exact h (k + 1) r (by rw [find?_succ, hk]; rfl)
  refine List.pairwise_filterMap.mpr (List.pairwise_iff_getElem.mpr ?_)
  intro i j hi hj hij a ha b hb
  have hai := position i a (by rw [List.getElem?_eq_getElem hi]; exact congrArg some ha)
  have hbj := position j b (by rw [List.getElem?_eq_getElem hj]; exact congrArg some hb)
  omega

theorem Numbered.next_notMem {l : Ledger} (h : l.Numbered) {r : Record} (hr : r ∈ l.kept) :
    r.id ≠ l.length + 1 := by
  intro hid
  obtain ⟨k, hk, hget⟩ := find?_eq_some (h.find?_id hr)
  have := (List.getElem?_eq_some_iff.mp hget).1
  omega

end Ledger

/-! ## 3. The relation -/

/-- A short number has a key. -/
theorem writtenKey_of_short {id : Int} (short : Numeral.Short id) :
    writtenKey id = .ok (recordKey id) := by
  rw [writtenKey, Numeral.writtenWithin_of_le short]
  rfl

/-- **A number of too many digits is refused**, whatever the server holds and whether it answers. -/
theorem get_of_long (s : Server) {id : Int} (long : ¬ Numeral.Short id) :
    get s id = .error (.numeral .unwritable) := by
  rw [get, writtenKey, Numeral.writtenWithin_of_long long]
  rfl

theorem recordKey_injective : Function.Injective recordKey := by
  intro m n h
  refine Numeral.text_injective (String.ext ?_)
  have := congrArg String.toList h
  simpa [recordKey] using this

/-- The counter is under no record's key. -/
theorem recordKey_ne_counterKey (id : Int) : recordKey id ≠ counterKey := by
  intro h
  have htext : (Numeral.text id).toList = "next_id".toList := by
    have := congrArg String.toList h
    simpa [recordKey, counterKey] using this
  have hread : ∀ n, (Numeral.renderNat n).head? ≠ some 'n' := by
    intro n hn
    obtain ⟨d, ds, -, hd, -, hrender⟩ := Numeral.renderNat_eq_cons n
    rw [hrender, List.head?_cons, Option.some.injEq] at hn
    exact Numeral.digitChar_ne hd rfl hn
  cases id with
  | ofNat n =>
    refine hread n ?_
    have : Numeral.renderNat n = "next_id".toList := by
      simpa [Numeral.text, Numeral.render] using htext
    rw [this]
    rfl
  | negSucc n => simp [Numeral.text, Numeral.render] at htext

/-- The counter, the texts and the index of a server are the ones of a ledger. -/
structure Holds (s : Server) (l : Ledger) : Prop where
  counter : s.text? counterKey = if l = [] then none else some (Numeral.text l.length)
  texts : ∀ id, s.text? (recordKey id) = (l.find? id).map encode
  keys : ∀ key, (s.text? key).isSome → key = counterKey ∨ ∃ id, key = recordKey id
  index : s.index = l.kept.map fun r => (Numeral.text r.id, r.id)
  numbered : l.Numbered
  writable : ∀ r ∈ l.kept, r.Writable

theorem holds_empty : Holds .empty [] where
  counter := rfl
  texts _ := by simp [Server.text?, Server.empty, Entries.find?]
  keys key h := by simp [Server.text?, Server.empty, Entries.find?] at h
  index := rfl
  numbered id r h := by simp at h
  writable r h := by simp at h

variable {s : Server} {l : Ledger}

/-- The counter tells how many numbers were handed out; before the first it is zero. -/
theorem Holds.count (h : Holds s l) :
    (s.text? counterKey).getD "0" = Numeral.text l.length := by
  rw [h.counter]
  split
  · rename_i hl
    have : Numeral.text 0 = "0" := by simp [Numeral.text, Numeral.render, Numeral.renderNat,
      Numeral.digits, Numeral.digitChar]
    simp [hl, this]
  · rfl

/-- A count leaves a gap at the end. -/
theorem Holds.counted (h : Holds s l) :
    Holds (s.setText counterKey (Numeral.text (l.length + 1 : Nat))) (l ++ [none]) where
  counter := by simp
  texts id := by
    rw [Server.text?_setText_of_ne s (recordKey_ne_counterKey id), h.texts,
      Ledger.find?_append]
    split
    · rename_i hid
      rw [hid, Ledger.find?_next]
    · rfl
  keys key hkey := by
    by_cases hc : key = counterKey
    · exact .inl hc
    · rw [Server.text?_setText_of_ne s hc] at hkey
      exact h.keys key hkey
  index := by
    rw [Ledger.kept_append, Option.toList_none, List.append_nil]
    exact h.index
  numbered := h.numbered.append (by simp)
  writable r hr := h.writable r (by simpa using hr)

/-- A batch fills the gap at the end. -/
theorem Holds.filled (h : Holds s (l ++ [none])) {r : Record} (hid : r.id = l.length + 1)
    (hr : r.Writable) :
    Holds ((s.setText (recordKey r.id) (encode r)).setScore (Numeral.text r.id) r.id)
      (l ++ [some r]) where
  counter := by
    have hcounter := h.counter
    simp only [List.append_ne_nil_of_right_ne_nil l (List.cons_ne_nil _ []), if_false,
      List.length_append, List.length_singleton] at hcounter ⊢
    rw [← hcounter]
    exact Server.text?_setText_of_ne s (recordKey_ne_counterKey r.id).symm _
  texts id := by
    show (s.setText (recordKey r.id) (encode r)).text? (recordKey id) = _
    rw [Ledger.find?_append, ← hid]
    split
    · rename_i he
      rw [he, Server.text?_setText]
      rfl
    · rename_i hne
      rw [Server.text?_setText_of_ne s (fun e => hne (recordKey_injective e)), h.texts,
        Ledger.find?_append, if_neg (by rwa [hid] at hne)]
  keys key hkey := by
    by_cases hc : key = recordKey r.id
    · exact .inr ⟨r.id, hc⟩
    · refine h.keys key ?_
      rwa [← Server.text?_setText_of_ne s hc (encode r)]
  index := by
    have hindex : s.index = l.kept.map fun r => (Numeral.text r.id, r.id) := by
      simpa using h.index
    have hnew : Numeral.text r.id ∉ s.index.map Prod.fst := by
      rw [hindex, List.map_map]
      intro hmem
      obtain ⟨r', hr', he⟩ := List.mem_map.mp hmem
      exact h.numbered.of_append.next_notMem hr' ((Numeral.text_injective he).trans hid)
    show Entries.set (Numeral.text r.id) r.id s.index = _
    rw [Entries.set_of_notMem hnew, hindex]
    simp
  numbered := h.numbered.of_append.append (by simpa using hid)
  writable r' hr' := by
    rw [Ledger.kept_append, Option.toList_some, List.mem_append, List.mem_singleton] at hr'
    rcases hr' with hr' | rfl
    · exact h.writable r' (by simpa using hr')
    · exact hr

end Remote

end Critique
