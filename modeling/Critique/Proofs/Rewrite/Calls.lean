/-
# Calls and what is done to them

A call that is dropped is the head, a text without a closing parenthesis, that parenthesis, perhaps
a semicolon, and blanks.  A replacement that shares no characters with the head, the parenthesis and
the semicolon leaves calls alone, if it stays among blanks or keeps away from them (`KeepsCalls`):
calls start where they started, what stands inside of them is the replacement of what stood there,
and so is what stands behind.  The three substitutions in front of the pass that drops calls are of
this kind.

The head of a call has no beginning that is also an end of it (`callHead_unbordered`).  So within a
call there is room for the head of another one only between its parentheses, and the two then end at
the same place (`suffix_of_call`).

* `startsCall_iff` and `behindCall_eq`: what a call is, and what stands behind it;
* `behindCall_replaceAll` and `inside_replaceAll`: calls under a replacement that keeps them;
* `places_swept`, `startsCall_swept`, `behindCall_swept`, `mem_inside_swept`: calls under the sweep;
* `suffix_of_call`: where else a call can start.
-/
import Critique.Proofs.Rewrite.Substitutions

namespace Critique.Rewrite

open Text

/-! ## 1. The parts of a call -/

/-- What stands inside the call at the start of a text: everything between the head and the first
closing parenthesis. -/
def inside (s : List Char) : List Char :=
  (s.drop callHead.length).takeWhile (· != ')')

theorem drop_callHead (s : List Char) :
    (callHead.toList ++ s).drop callHead.length = s :=
  List.drop_left

theorem closed_of_notMem {s : List Char} (h : ')' ∉ s) : ∀ c ∈ s, (c != ')') = true :=
  fun _ hc => bne_iff_ne.mpr fun he => h (he ▸ hc)

theorem inside_eq {front : List Char} (h : ')' ∉ front) (rest : List Char) :
    inside (callHead.toList ++ (front ++ ')' :: rest)) = front := by
  rw [inside, drop_callHead, List.takeWhile_append_of_pos (closed_of_notMem h)]
  simp

/-- **What stands behind a call**, from its parts. -/
theorem behindCall_eq {front : List Char} (h : ')' ∉ front) (rest : List Char) :
    behindCall (callHead.toList ++ (front ++ ')' :: rest)) =
      (behindSemicolon rest).dropWhile isBlank := by
  rw [behindCall, drop_callHead, List.dropWhile_append_of_pos (closed_of_notMem h)]
  simp

/-- **A call starts** where there are its parts. -/
theorem startsCall_iff {s : List Char} :
    StartsCall s ↔
      ∃ front rest, s = callHead.toList ++ (front ++ ')' :: rest) ∧ ')' ∉ front := by
  constructor
  · rintro ⟨⟨t, rfl⟩, hclosed⟩
    rw [drop_callHead] at hclosed
    obtain ⟨front, rest, rfl, hfront⟩ := List.eq_append_cons_of_mem hclosed
    exact ⟨front, rest, rfl, hfront⟩
  · rintro ⟨front, rest, rfl, -⟩
    refine ⟨List.prefix_append _ _, ?_⟩
    rw [drop_callHead]
    exact List.mem_append_right _ List.mem_cons_self

/-- What a call takes with it behind its parenthesis. -/
theorem exists_append_behind (rest : List Char) :
    ∃ taken, rest = taken ++ (behindSemicolon rest).dropWhile isBlank ∧
      ∀ c ∈ taken, c = ';' ∨ isBlank c = true := by
  have hblanks : ∀ s : List Char, ∀ c ∈ s.takeWhile isBlank, isBlank c = true :=
    fun s c hc => List.mem_takeWhile_imp hc
  unfold behindSemicolon
  split
  · rename_i t
    refine ⟨';' :: t.takeWhile isBlank, ?_, ?_⟩
    · rw [List.cons_append, List.takeWhile_append_dropWhile]
    · rw [List.forall_mem_cons]
      exact ⟨.inl rfl, fun c hc => .inr (hblanks t c hc)⟩
  · exact ⟨rest.takeWhile isBlank, List.takeWhile_append_dropWhile.symm,
      fun c hc => .inr (hblanks rest c hc)⟩

theorem behindCall_suffix {s : List Char} (h : StartsCall s) : behindCall s <:+ s := by
  obtain ⟨front, rest, rfl, hfront⟩ := startsCall_iff.mp h
  obtain ⟨taken, htaken, -⟩ := exists_append_behind rest
  rw [behindCall_eq hfront]
  refine ⟨callHead.toList ++ (front ++ ')' :: taken), ?_⟩
  rw [List.append_assoc, List.append_assoc, List.cons_append, ← htaken]

@[simp] theorem withoutCalls_nil : withoutCalls [] = [] := by
  rw [withoutCalls]

theorem withoutCalls_cons {c : Char} {t : List Char} (h : ¬ StartsCall (c :: t)) :
    withoutCalls (c :: t) = c :: withoutCalls t := by
  rw [withoutCalls, if_neg h]

theorem withoutCalls_call {s : List Char} (h : StartsCall s) :
    withoutCalls s = withoutCalls (behindCall s) := by
  cases s with
  | nil => exact absurd h (by decide)
  | cons c t => rw [withoutCalls, if_pos h]

/-! ## 2. Replacements that keep calls -/

/-- What a replacement needs to leave calls alone. -/
structure KeepsCalls (old new : String) : Prop where
  ne : old ≠ ""
  head : Spares old new callHead
  closing : ')' ∉ old.toList ∧ ')' ∉ new.toList
  semicolon : Spares old new ";"
  blanks : Blank (old.toList ++ new.toList) ∨
    (old.toList.head?.any (!isBlank ·) ∧ new.toList.head?.any (!isBlank ·))

/-- Nothing is left out of a text that begins with something other than a blank. -/
theorem dropWhile_append_of_head {piece : List Char} (h : piece.head?.any (!isBlank ·) = true)
    (rest : List Char) : (piece ++ rest).dropWhile isBlank = piece ++ rest := by
  cases piece with
  | nil => simp at h
  | cons c piece => exact List.dropWhile_cons_of_neg (by simpa using h)

variable {old new : String} {s : List Char}

/-- A replacement among the blanks, or one behind them, leaves out the same. -/
theorem KeepsCalls.dropWhile_replaceAll (h : KeepsCalls old new) (s : List Char) :
    (replaceAll old new s).dropWhile isBlank = replaceAll old new (s.dropWhile isBlank) := by
  induction s using replaceAll_induction h.ne with
  | nil => rfl
  | occurrence rest ih =>
    rw [replaceAll_append h.ne]
    rcases h.blanks with hall | ⟨hold, hnew⟩
    · have hout : ∀ c ∈ old.toList, isBlank c = true := fun c hc =>
        hall c (List.mem_append_left _ hc)
      have hin : ∀ c ∈ new.toList, isBlank c = true := fun c hc =>
        hall c (List.mem_append_right _ hc)
      rw [List.dropWhile_append_of_pos hin, List.dropWhile_append_of_pos hout, ih]
    · rw [dropWhile_append_of_head hnew, dropWhile_append_of_head hold, replaceAll_append h.ne]
  | copy c rest hcopy ih =>
    cases hc : isBlank c with
    | true =>
      rw [replaceAll_cons hcopy, List.dropWhile_cons_of_pos hc, List.dropWhile_cons_of_pos hc, ih]
    | false =>
      have hnot : ¬ isBlank c = true := by simp [hc]
      rw [replaceAll_cons hcopy, List.dropWhile_cons_of_neg hnot, List.dropWhile_cons_of_neg hnot,
        replaceAll_cons hcopy]

/-- A semicolon in front of a text stays there, and none comes there. -/
theorem KeepsCalls.behindSemicolon_replaceAll (h : KeepsCalls old new) (s : List Char) :
    behindSemicolon (replaceAll old new s) = replaceAll old new (behindSemicolon s) := by
  by_cases hs : ";".toList <+: s
  · obtain ⟨t, rfl⟩ := hs
    rw [replaceAll_append_of_clear h.semicolon.1.1]
    rfl
  · have hnone : ¬ ";".toList <+: replaceAll old new s := fun hbegins =>
      hs (prefix_of_prefix_replaceAll h.ne h.semicolon.2.1 hbegins)
    have hself : ∀ t : List Char, ¬ ";".toList <+: t → behindSemicolon t = t := by
      intro t ht
      unfold behindSemicolon
      split
      · rename_i t
        exact absurd (List.prefix_append [';'] t) ht
      · rfl
    rw [hself _ hs, hself _ hnone]

/-- The parts of a call under a replacement that keeps calls. -/
theorem KeepsCalls.replaceAll_call (h : KeepsCalls old new) (front rest : List Char) :
    replaceAll old new (callHead.toList ++ (front ++ ')' :: rest)) =
      callHead.toList ++ (replaceAll old new front ++ ')' :: replaceAll old new rest) := by
  rw [replaceAll_append_of_clear h.head.1.1, replaceAll_append_cons h.ne h.closing.1]

/-- **Calls start where they started.** -/
theorem KeepsCalls.startsCall_replaceAll (h : KeepsCalls old new) :
    StartsCall (replaceAll old new s) ↔ StartsCall s := by
  constructor
  · rintro ⟨hbegins, hclosed⟩
    obtain ⟨t, rfl⟩ := prefix_of_prefix_replaceAll h.ne h.head.2.1 hbegins
    rw [replaceAll_append_of_clear h.head.1.1, drop_callHead,
      mem_replaceAll_iff h.ne h.closing.1 h.closing.2] at hclosed
    exact ⟨List.prefix_append _ _, by rwa [drop_callHead]⟩
  · intro hcall
    obtain ⟨front, rest, rfl, hfront⟩ := startsCall_iff.mp hcall
    rw [h.replaceAll_call]
    refine startsCall_iff.mpr ⟨_, _, rfl, ?_⟩
    rwa [mem_replaceAll_iff h.ne h.closing.1 h.closing.2]

/-- **What stands behind a call** is the replacement of what stood there. -/
theorem KeepsCalls.behindCall_replaceAll (h : KeepsCalls old new) (hcall : StartsCall s) :
    behindCall (replaceAll old new s) = replaceAll old new (behindCall s) := by
  obtain ⟨front, rest, rfl, hfront⟩ := startsCall_iff.mp hcall
  have hfront' : ')' ∉ replaceAll old new front := by
    rwa [mem_replaceAll_iff h.ne h.closing.1 h.closing.2]
  rw [h.replaceAll_call, behindCall_eq hfront', behindCall_eq hfront,
    h.behindSemicolon_replaceAll, h.dropWhile_replaceAll]

/-- **What stands inside a call** is the replacement of what stood there. -/
theorem KeepsCalls.inside_replaceAll (h : KeepsCalls old new) (hhead : callHead.toList <+: s) :
    inside (replaceAll old new s) = replaceAll old new (inside s) := by
  obtain ⟨t, rfl⟩ := hhead
  rw [replaceAll_append_of_clear h.head.1.1, inside, inside, drop_callHead, drop_callHead,
    takeWhile_replaceAll h.ne h.closing.1 h.closing.2]

/-! ## 3. The sweep -/

theorem keepsCalls_declaration : KeepsCalls "var " "const " :=
  ⟨by decide, by decide, by decide, by decide, .inr (by decide)⟩

theorem keepsCalls_equal : KeepsCalls "==" "===" :=
  ⟨by decide, by decide, by decide, by decide, .inr (by decide)⟩

theorem keepsCalls_unequal : KeepsCalls "!=" "!==" :=
  ⟨by decide, by decide, by decide, by decide, .inr (by decide)⟩

/-- **Calls start where they started**, also after the sweep. -/
theorem startsCall_swept (s : List Char) : StartsCall (swept s) ↔ StartsCall s := by
  rw [← fused_eq_swept, keepsCalls_unequal.startsCall_replaceAll,
    keepsCalls_equal.startsCall_replaceAll, keepsCalls_declaration.startsCall_replaceAll]

/-- The sweep goes on behind a call as it would without the call. -/
theorem behindCall_swept {s : List Char} (h : StartsCall s) :
    behindCall (swept s) = swept (behindCall s) := by
  have hdeclared := keepsCalls_declaration.startsCall_replaceAll.mpr h
  have hdoubled := keepsCalls_equal.startsCall_replaceAll.mpr hdeclared
  rw [← fused_eq_swept, ← fused_eq_swept, keepsCalls_unequal.behindCall_replaceAll hdoubled,
    keepsCalls_equal.behindCall_replaceAll hdeclared, keepsCalls_declaration.behindCall_replaceAll h]

/-- The places of heads after the sweep. -/
theorem places_swept (s : List Char) :
    places callHead.toList (swept s) = (places callHead.toList s).map swept := by
  have hfused : swept = fun t => replaceAll "!=" "!==" (replaceAll "==" "==="
      (replaceAll "var " "const " t)) := funext fun t => (fused_eq_swept t).symm
  rw [hfused, places_replaceAll (by decide) (by decide) (by decide) (by decide),
    places_replaceAll (by decide) (by decide) (by decide) (by decide),
    places_replaceAll (by decide) (by decide) (by decide) (by decide), List.map_map, List.map_map]
  rfl

/-- A parenthesis opens inside a call after the sweep if one did before. -/
theorem mem_inside_swept {s : List Char} (h : callHead.toList <+: s) :
    '(' ∈ inside (swept s) ↔ '(' ∈ inside s := by
  have hstays : ∀ {old new : String} (_ : KeepsCalls old new) {t : List Char},
      callHead.toList <+: t → callHead.toList <+: replaceAll old new t := by
    intro old new hkeeps t ht
    obtain ⟨rest, rfl⟩ := ht
    rw [replaceAll_append_of_clear hkeeps.head.1.1]
    exact List.prefix_append _ _
  have hdeclared := hstays keepsCalls_declaration h
  have hdoubled := hstays keepsCalls_equal hdeclared
  rw [← fused_eq_swept, keepsCalls_unequal.inside_replaceAll hdoubled,
    keepsCalls_equal.inside_replaceAll hdeclared, keepsCalls_declaration.inside_replaceAll h,
    mem_replaceAll_iff (by decide) (by decide) (by decide),
    mem_replaceAll_iff (by decide) (by decide) (by decide),
    mem_replaceAll_iff (by decide) (by decide) (by decide)]

/-! ## 4. Calls within calls -/

/-- The head of a call has no beginning that is also an end of it. -/
theorem callHead_unbordered : ∀ rest ∈ callHead.toList.tails, rest ≠ [] → rest ≠ callHead.toList →
    ¬ rest <+: callHead.toList ∧ ¬ callHead.toList <+: rest := by
  decide

/-- An end of a text is one of its second half, or takes in something of the first. -/
theorem suffix_append_cases {a b t : List Char} (h : t <:+ a ++ b) :
    t <:+ b ∨ ∃ rest, rest <:+ a ∧ rest ≠ [] ∧ t = rest ++ b := by
  obtain ⟨front, hfront⟩ := h
  rcases List.append_eq_append_iff.mp hfront with ⟨rest, rfl, rfl⟩ | ⟨rest, rfl, rfl⟩
  · cases rest with
    | nil => exact .inl (List.suffix_refl _)
    | cons c rest => exact .inr ⟨c :: rest, List.suffix_append _ _, List.cons_ne_nil c rest, rfl⟩
  · exact .inl (List.suffix_append _ _)

/-- The head of a call does not begin at a character that is not the first one of it. -/
theorem not_callHead_cons {c : Char} (hc : c ≠ 'c') (t : List Char) :
    ¬ callHead.toList <+: c :: t :=
  fun h => hc (List.cons_prefix_cons.mp h).1.symm

/-- No call starts at a character that is not the first one of the head. -/
theorem not_startsCall {c : Char} (hc : c ≠ 'c') (t : List Char) : ¬ StartsCall (c :: t) :=
  fun h => not_callHead_cons hc t h.1

/-- **Where else a call can start**: behind the call at the start of a text, or between its
parentheses, and then it ends with it. -/
theorem suffix_of_call {s t : List Char} (h : StartsCall s) (ht : t <:+ s)
    (hhead : callHead.toList <+: t) :
    t <:+ behindCall s ∨ t = s ∨ ('(' ∈ inside s ∧ behindCall t = behindCall s) := by
  obtain ⟨front, rest, rfl, hfront⟩ := startsCall_iff.mp h
  rw [inside_eq hfront, behindCall_eq hfront]
  rcases suffix_append_cases ht with ht | ⟨headEnd, hend, hne, rfl⟩
  · rcases suffix_append_cases ht with ht | ⟨frontEnd, hend, -, rfl⟩
    · refine .inl ?_
      rcases List.suffix_cons_iff.mp ht with rfl | ht
      · exact absurd hhead (not_callHead_cons (by decide) rest)
      · obtain ⟨taken, htaken, hblank⟩ := exists_append_behind rest
        rw [htaken] at ht
        rcases suffix_append_cases ht with ht | ⟨takenEnd, hend, hne, rfl⟩
        · exact ht
        · -- what the call takes with it behind its parenthesis begins no call
          cases takenEnd with
          | nil => exact absurd rfl hne
          | cons c takenEnd =>
            refine absurd hhead (not_callHead_cons ?_ _)
            rintro rfl
            have := hblank 'c' (hend.subset List.mem_cons_self)
            exact absurd this (by decide)
    · refine .inr (.inr ?_)
      obtain ⟨inner, rfl⟩ := prefix_of_prefix_append_cons (by decide) _ hhead
      have hopen : '(' ∈ callHead.toList := by decide
      refine ⟨hend.subset (List.mem_append_left _ hopen), ?_⟩
      rw [List.append_assoc, behindCall_eq fun hmem =>
        hfront (hend.subset (List.mem_append_right _ hmem))]
  · refine .inr (.inl ?_)
    by_cases hwhole : headEnd = callHead.toList
    · rw [hwhole]
    · obtain ⟨hshort, hlong⟩ := callHead_unbordered headEnd ((List.mem_tails _ _).mpr hend) hne hwhole
      rcases List.prefix_or_prefix_of_prefix hhead (List.prefix_append _ _) with h | h
      · exact absurd h hlong
      · exact absurd h hshort

end Critique.Rewrite
