/-
# What a replacement leaves alone

A replacement of one piece by another changes where third pieces stand only if they can share
characters with what goes out or with what comes in.  Two pieces are `Apart` if they cannot: neither
stands in the other, and no end of one is a beginning of the other.  That is a question about the
pieces alone, and `decide` answers it.

`places` lists the places where a piece stands, each as the rest of the text from there on.  A
replacement that keeps apart from the piece neither makes nor loses a place, and what stands at a
place afterwards is the replacement of what stood there (`places_replaceAll`).  Whether a piece
occurs at all is the least that follows.

* `apart_of_disjoint`: pieces that are apart because they have no character in common;
* `replaceAll_induction`: induction along a replacement;
* `places_replaceAll`: the places of a piece that the replacement is apart from;
* `has_replaceAll` and `has_replaced`: which pieces occur afterwards;
* `replaceAll_append_cons` and `splitLines_replaceAll`: a replacement goes part by part and line by
  line.
-/
import Critique.Proofs.Text.Lines
import Critique.Proofs.Text.Replacing
import Mathlib.Data.List.Infix
import Mathlib.Data.List.Lattice
import Mathlib.Data.List.TakeWhile

namespace Critique.Text

/-! ## 1. Pieces that share no characters -/

/-- Whether no end of the first piece goes along with the second one. -/
def Clear (a b : List Char) : Prop :=
  ∀ rest ∈ a.tails, rest ≠ [] → ¬ rest <+: b ∧ ¬ b <+: rest

instance (a b : List Char) : Decidable (Clear a b) :=
  inferInstanceAs (Decidable (∀ rest ∈ a.tails, _))

/-- Whether two pieces can share no characters, wherever they stand in a text. -/
def Apart (a b : List Char) : Prop :=
  Clear a b ∧ Clear b a

instance (a b : List Char) : Decidable (Apart a b) := inferInstanceAs (Decidable (_ ∧ _))

/-- Whether the replacement of `old` by `new` shares no characters with a piece. -/
def Spares (old new piece : String) : Prop :=
  Apart piece.toList old.toList ∧ Apart piece.toList new.toList

instance (old new piece : String) : Decidable (Spares old new piece) :=
  inferInstanceAs (Decidable (_ ∧ _))

/-- No text goes on both with an end of the first piece and with the second one. -/
theorem Clear.append_ne {a b rest : List Char} (h : Clear a b) (hrest : rest <:+ a)
    (hne : rest ≠ []) (s t : List Char) : rest ++ s ≠ b ++ t := by
  intro heq
  have hbegins : b <+: rest ++ s := heq ▸ List.prefix_append b t
  obtain ⟨hleft, hright⟩ := h rest ((List.mem_tails _ _).mpr hrest) hne
  rcases List.prefix_or_prefix_of_prefix (List.prefix_append rest s) hbegins with hshort | hlong
  · exact hleft hshort
  · exact hright hlong

theorem Clear.tail {c : Char} {a b : List Char} (h : Clear (c :: a) b) : Clear a b :=
  fun rest hrest => h rest ((List.mem_tails _ _).mpr
    (((List.mem_tails _ _).mp hrest).trans (List.suffix_cons c a)))

/-- A piece that begins a text and lacks some character of it begins what stands in front of that
character. -/
theorem prefix_of_prefix_append_cons {x : Char} {piece rest : List Char} (hx : x ∉ piece)
    (front : List Char) (h : piece <+: front ++ x :: rest) : piece <+: front := by
  rcases List.prefix_or_prefix_of_prefix h (List.prefix_append front _) with hshort | ⟨t, rfl⟩
  · exact hshort
  · cases t with
    | nil => rw [List.append_nil]
    | cons d t =>
      rw [List.prefix_append_right_inj, List.cons_prefix_cons] at h
      exact absurd (List.mem_append_right _ (h.1 ▸ List.mem_cons_self)) hx

/-- A piece does not begin a text that begins with a character which is not in it. -/
theorem not_prefix_cons {piece : String} (hne : piece ≠ "") {x : Char} (hx : x ∉ piece.toList)
    (rest : List Char) : ¬ piece.toList <+: x :: rest := by
  intro hbegins
  have hnil := List.prefix_nil.mp (prefix_of_prefix_append_cons hx [] hbegins)
  exact hne (String.toList_eq_nil_iff.mp hnil)

/-- **Pieces without a common character** can share none. -/
theorem apart_of_disjoint {a b : List Char} (ha : a ≠ []) (hb : b ≠ []) (h : a.Disjoint b) :
    Apart a b := by
  have hclear : ∀ {a b : List Char}, b ≠ [] → a.Disjoint b → Clear a b := by
    intro a b hb h rest hrest hne
    have hsubset := ((List.mem_tails _ _).mp hrest).subset
    constructor
    · intro hbegins
      obtain ⟨c, hc⟩ := List.exists_mem_of_ne_nil rest hne
      exact h (hsubset hc) (hbegins.subset hc)
    · intro hbegins
      obtain ⟨c, hc⟩ := List.exists_mem_of_ne_nil b hb
      exact h (hsubset (hbegins.subset hc)) hc
  exact ⟨hclear hb h, hclear ha h.symm⟩

/-! ## 2. Induction along a replacement -/

variable {old new : String} {s : List Char}

/-- **Induction along a replacement**: a text is empty, or it begins with an occurrence, or with a
character that is copied. -/
@[elab_as_elim]
theorem replaceAll_induction (hne : old ≠ "") {motive : List Char → Prop} (nil : motive [])
    (occurrence : ∀ rest, motive rest → motive (old.toList ++ rest))
    (copy : ∀ c rest, ¬ old.toList <+: c :: rest → motive rest → motive (c :: rest))
    (s : List Char) : motive s := by
  have hpositive : 0 < old.toList.length := by
    refine List.length_pos_iff.mpr fun hnil => hne (String.toList_eq_nil_iff.mp hnil)
  induction hlength : s.length using Nat.strongRecOn generalizing s with
  | ind n ih =>
    cases s with
    | nil => exact nil
    | cons c t =>
      by_cases hbegins : old.toList <+: c :: t
      · obtain ⟨rest, hrest⟩ := hbegins
        have hshorter : rest.length < n := by
          rw [← hlength, ← hrest, List.length_append]
          omega
        exact hrest ▸ occurrence rest (ih _ hshorter rest rfl)
      · have hshorter : t.length < n := by
          rw [← hlength, List.length_cons]
          omega
        exact copy c t hbegins (ih _ hshorter t rfl)

/-- A piece that keeps clear of what goes out is copied. -/
theorem replaceAll_append_of_clear {piece : List Char}
    (h : Clear piece old.toList) (rest : List Char) :
    replaceAll old new (piece ++ rest) = piece ++ replaceAll old new rest := by
  induction piece with
  | nil => rfl
  | cons c piece ih =>
    have hcopy : ¬ old.toList <+: c :: (piece ++ rest) := by
      rintro ⟨t, ht⟩
      exact h.append_ne (List.suffix_refl _) (List.cons_ne_nil c piece) rest t ht.symm
    rw [List.cons_append, replaceAll_cons hcopy, ih h.tail, List.cons_append]

/-- A piece that keeps clear of what comes in begins no text that it did not begin before. -/
theorem prefix_of_prefix_replaceAll (hne : old ≠ "") {piece : List Char}
    (h : Clear piece new.toList) (hbegins : piece <+: replaceAll old new s) : piece <+: s := by
  induction piece generalizing s with
  | nil => exact List.nil_prefix
  | cons d piece ih =>
    induction s using replaceAll_induction hne with
    | nil => exact absurd (List.prefix_nil.mp hbegins) (List.cons_ne_nil d piece)
    | occurrence rest _ =>
      rw [replaceAll_append hne] at hbegins
      obtain ⟨t, ht⟩ := hbegins
      exact absurd ht (h.append_ne (List.suffix_refl _) (List.cons_ne_nil d piece) t _)
    | copy c rest hcopy _ =>
      rw [replaceAll_cons hcopy, List.cons_prefix_cons] at hbegins
      exact List.cons_prefix_cons.mpr ⟨hbegins.1, ih h.tail hbegins.2⟩

/-! ## 3. Places -/

/-- The places where a piece stands: at each, the text from there on. -/
def places (piece s : List Char) : List (List Char) :=
  s.tails.filter piece.isPrefixOf

theorem mem_places {piece t : List Char} : t ∈ places piece s ↔ t <:+ s ∧ piece <+: t := by
  rw [places, List.mem_filter, List.mem_tails, List.isPrefixOf_iff_prefix]

theorem places_nil {piece : List Char} (hpiece : piece ≠ []) : places piece [] = [] := by
  rw [List.eq_nil_iff_forall_not_mem]
  intro t ht
  obtain ⟨hsuffix, hbegins⟩ := mem_places.mp ht
  rw [List.suffix_nil.mp hsuffix] at hbegins
  exact hpiece (List.prefix_nil.mp hbegins)

theorem places_cons (piece : List Char) (c : Char) (t : List Char) :
    places piece (c :: t) =
      (if piece <+: c :: t then [c :: t] else []) ++ places piece t := by
  rw [places, List.tails_cons, List.filter_cons]
  by_cases hbegins : piece <+: c :: t
  · rw [if_pos (List.isPrefixOf_iff_prefix.mpr hbegins), if_pos hbegins]
    rfl
  · rw [if_neg fun h => hbegins (List.isPrefixOf_iff_prefix.mp h), if_neg hbegins]
    rfl

/-- A piece stands nowhere in a text that keeps clear of it. -/
theorem places_append_of_clear {front piece : List Char} (h : Clear front piece)
    (s : List Char) : places piece (front ++ s) = places piece s := by
  induction front with
  | nil => rfl
  | cons c front ih =>
    have hnot : ¬ piece <+: c :: (front ++ s) := by
      rintro ⟨t, ht⟩
      exact h.append_ne (List.suffix_refl _) (List.cons_ne_nil c front) s t ht.symm
    rw [List.cons_append, places_cons, if_neg hnot, ih h.tail, List.nil_append]

/-- **The places of a piece that a replacement is apart from** are those that it had, each with the
replacement of what stood there. -/
theorem places_replaceAll (hne : old ≠ "") {piece : List Char} (hpiece : piece ≠ [])
    (hold : Apart piece old.toList) (hnew : Apart piece new.toList) (s : List Char) :
    places piece (replaceAll old new s) = (places piece s).map (replaceAll old new) := by
  induction s using replaceAll_induction hne with
  | nil => rw [replaceAll_nil, places_nil hpiece, List.map_nil]
  | occurrence rest ih =>
    rw [replaceAll_append hne, places_append_of_clear hnew.2, places_append_of_clear hold.2, ih]
  | copy c rest hcopy ih =>
    rw [replaceAll_cons hcopy, places_cons, places_cons, ih, List.map_append]
    congr 1
    by_cases hbegins : piece <+: c :: rest
    · obtain ⟨t, ht⟩ := hbegins
      have hkept : piece <+: c :: replaceAll old new rest := by
        rw [← replaceAll_cons hcopy, ← ht, replaceAll_append_of_clear hold.1]
        exact List.prefix_append _ _
      rw [if_pos hkept, if_pos ⟨t, ht⟩, List.map_singleton, replaceAll_cons hcopy]
    · have hnone : ¬ piece <+: c :: replaceAll old new rest := fun h =>
        hbegins (prefix_of_prefix_replaceAll hne hnew.1 (by rwa [replaceAll_cons hcopy]))
      rw [if_neg hnone, if_neg hbegins, List.map_nil]

/-- A piece occurs if it has a place. -/
theorem occurs_iff_places {piece : List Char} :
    occurs piece s = true ↔ places piece s ≠ [] := by
  rw [occurs_iff, List.infix_iff_prefix_suffix]
  constructor
  · rintro ⟨t, hbegins, hsuffix⟩
    exact List.ne_nil_of_mem (mem_places.mpr ⟨hsuffix, hbegins⟩)
  · intro hne
    obtain ⟨t, ht⟩ := List.exists_mem_of_ne_nil _ hne
    exact ⟨t, (mem_places.mp ht).2, (mem_places.mp ht).1⟩

/-- **A piece that a replacement is apart from** occurs if it occurred before. -/
theorem has_replaceAll {piece : String} (h : Spares old new piece) (hne : old ≠ "")
    (hpiece : piece ≠ "") (s : List Char) : has (replaceAll old new s) piece = has s piece := by
  have hne' : piece.toList ≠ [] := fun hnil => hpiece (String.toList_eq_nil_iff.mp hnil)
  rw [has, has, Bool.eq_iff_iff, occurs_iff_places, occurs_iff_places,
    places_replaceAll hne hne' h.1 h.2, ne_eq, ne_eq, List.map_eq_nil_iff]

/-- **What was replaced is gone**, if it shares no characters with what came in. -/
theorem has_replaced (hne : old ≠ "") (h : Apart old.toList new.toList) (s : List Char) :
    has (replaceAll old new s) old = false := by
  rw [has, ← Bool.not_eq_true, occurs_iff_places, not_not]
  induction s using replaceAll_induction hne with
  | nil => exact places_nil fun hnil => hne (String.toList_eq_nil_iff.mp hnil)
  | occurrence rest ih => rw [replaceAll_append hne, places_append_of_clear h.2, ih]
  | copy c rest hcopy ih =>
    have hnone : ¬ old.toList <+: c :: replaceAll old new rest := fun hbegins =>
      hcopy (prefix_of_prefix_replaceAll hne h.1 (by rwa [replaceAll_cons hcopy]))
    rw [replaceAll_cons hcopy, places_cons, if_neg hnone, ih, List.nil_append]

/-- What came in occurs, if anything was replaced. -/
theorem has_replacement (hne : old ≠ "") (h : has s old = true) :
    has (replaceAll old new s) new = true := by
  rw [has, occurs_iff] at h ⊢
  induction s using replaceAll_induction hne with
  | nil => exact absurd (String.toList_eq_nil_iff.mp (List.infix_nil.mp h)) hne
  | occurrence rest _ =>
    rw [replaceAll_append hne]
    exact (List.prefix_append _ _).isInfix
  | copy c rest hcopy ih =>
    rw [replaceAll_cons hcopy]
    rcases List.infix_cons_iff.mp h with hbegins | hinfix
    · exact absurd hbegins hcopy
    · exact List.infix_cons_iff.mpr (.inr (ih hinfix))

/-! ## 4. Parts and lines -/

/-- **A replacement goes part by part**, at every character that is not in the piece. -/
theorem replaceAll_append_cons (hne : old ≠ "") {x : Char} (hx : x ∉ old.toList)
    (front rest : List Char) :
    replaceAll old new (front ++ x :: rest) =
      replaceAll old new front ++ x :: replaceAll old new rest := by
  induction front using replaceAll_induction hne with
  | nil => exact replaceAll_cons (not_prefix_cons hne hx rest)
  | occurrence front ih =>
    rw [List.append_assoc, replaceAll_append hne, ih, replaceAll_append hne, List.append_assoc]
  | copy c front hcopy ih =>
    have hcopy' : ¬ old.toList <+: c :: (front ++ x :: rest) := fun hbegins =>
      hcopy (prefix_of_prefix_append_cons hx (c :: front) hbegins)
    rw [List.cons_append, replaceAll_cons hcopy', ih, replaceAll_cons hcopy, List.cons_append]

/-- What a replacement makes is made of what comes in and of what was there. -/
theorem mem_replaceAll (hne : old ≠ "") {x : Char} (h : x ∈ replaceAll old new s) :
    x ∈ new.toList ∨ x ∈ s := by
  induction s using replaceAll_induction hne with
  | nil => exact .inr h
  | occurrence rest ih =>
    rw [replaceAll_append hne, List.mem_append] at h
    rcases h with hnew | hrest
    · exact .inl hnew
    · exact (ih hrest).imp_right (List.mem_append_right _)
  | copy c rest hcopy ih =>
    rw [replaceAll_cons hcopy, List.mem_cons] at h
    rcases h with rfl | hrest
    · exact .inr List.mem_cons_self
    · exact (ih hrest).imp_right (List.mem_cons_of_mem _)

/-- A character that is in neither piece stays in the text, or out of it. -/
theorem mem_replaceAll_iff (hne : old ≠ "") {x : Char} (hold : x ∉ old.toList)
    (hnew : x ∉ new.toList) : x ∈ replaceAll old new s ↔ x ∈ s := by
  constructor
  · exact fun h => (mem_replaceAll hne h).resolve_left hnew
  · intro h
    obtain ⟨front, rest, rfl⟩ := List.append_of_mem h
    rw [replaceAll_append_cons hne hold]
    exact List.mem_append_right _ List.mem_cons_self

/-- A replacement of a text up to a character is that of the text, up to it. -/
theorem takeWhile_replaceAll (hne : old ≠ "") {x : Char} (hold : x ∉ old.toList)
    (hnew : x ∉ new.toList) (s : List Char) :
    (replaceAll old new s).takeWhile (· != x) = replaceAll old new (s.takeWhile (· != x)) := by
  have hall : ∀ t : List Char, x ∉ t → ∀ c ∈ t, (c != x) = true := by
    intro t ht c hc
    exact bne_iff_ne.mpr fun he => ht (he ▸ hc)
  by_cases hmem : x ∈ s
  · obtain ⟨front, rest, rfl, hfront⟩ := List.eq_append_cons_of_mem hmem
    have hfront' : x ∉ replaceAll old new front := by
      rwa [mem_replaceAll_iff hne hold hnew]
    rw [replaceAll_append_cons hne hold, List.takeWhile_append_of_pos (hall _ hfront'),
      List.takeWhile_append_of_pos (hall _ hfront)]
    simp
  · have hmem' : x ∉ replaceAll old new s := by
      rwa [mem_replaceAll_iff hne hold hnew]
    rw [List.takeWhile_eq_self_iff.mpr (hall _ hmem'), List.takeWhile_eq_self_iff.mpr (hall _ hmem)]

/-- **A replacement goes line by line**, if neither piece holds a line feed. -/
theorem splitLines_replaceAll (hne : old ≠ "") (hold : '\n' ∉ old.toList)
    (hnew : '\n' ∉ new.toList) (s : List Char) :
    splitLines (replaceAll old new s) = (splitLines s).map (replaceAll old new) := by
  have hline : ∀ line : List Char, '\n' ∉ line → '\n' ∉ replaceAll old new line := by
    intro line hline hmem
    rcases mem_replaceAll hne hmem with hmem | hmem
    · exact hnew hmem
    · exact hline hmem
  induction s using lines_induction with
  | last line h => rw [splitLines_of_notMem (hline line h), splitLines_of_notMem h, List.map_singleton]
  | line line t h ih =>
    rw [replaceAll_append_cons hne hold, splitLines_append (hline line h), ih,
      splitLines_append h, List.map_cons]

/-- What stays of a text is what stayed before, if it is the same of both pieces. -/
theorem filter_replaceAll (hne : old ≠ "") {p : Char → Bool}
    (h : new.toList.filter p = old.toList.filter p) (s : List Char) :
    (replaceAll old new s).filter p = s.filter p := by
  induction s using replaceAll_induction hne with
  | nil => rfl
  | occurrence rest ih => rw [replaceAll_append hne, List.filter_append, List.filter_append, ih, h]
  | copy c rest hcopy ih => rw [replaceAll_cons hcopy, List.filter_cons, List.filter_cons, ih]

/-- A text is blank only if it was so before something else than blanks was put in. -/
theorem blank_of_replaceAll (hne : old ≠ "") (hnew : ¬ Blank new.toList)
    (h : Blank (replaceAll old new s)) : Blank s := by
  induction s using replaceAll_induction hne with
  | nil => exact h
  | occurrence rest _ =>
    rw [replaceAll_append hne] at h
    exact absurd (blank_append.mp h).1 hnew
  | copy c rest hcopy ih =>
    rw [replaceAll_cons hcopy] at h
    exact blank_cons.mpr ⟨(blank_cons.mp h).1, ih (blank_cons.mp h).2⟩

/-- A replacement by something that is no shorter makes no text shorter. -/
theorem length_le_replaceAll (hne : old ≠ "") (h : old.toList.length ≤ new.toList.length)
    (s : List Char) : s.length ≤ (replaceAll old new s).length := by
  induction s using replaceAll_induction hne with
  | nil => exact Nat.le_refl 0
  | occurrence rest ih =>
    rw [replaceAll_append hne, List.length_append, List.length_append]
    omega
  | copy c rest hcopy ih =>
    rw [replaceAll_cons hcopy, List.length_cons, List.length_cons]
    omega

end Critique.Text
