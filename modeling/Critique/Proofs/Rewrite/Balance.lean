/-
# Parentheses

A call is dropped up to the first closing parenthesis behind its head.  That is its own one only if
nothing was opened inside of it, so a rewrite can leave a closing parenthesis behind that nothing
opens: `balanced_iff_inside` says exactly when the parentheses of a rewrite are balanced, and
`not_balanced_nested` is a call in a call.

Only the pass that drops calls matters.  The substitutions in front of it and behind it leave the
sequence of parentheses as it is (`balanced_replaceAll`).  Dropping calls is a scan, and the argument
follows it with the depth that has been reached (`BalancedFrom`): what a call takes out is as deep as
the number of parentheses opened inside of it (`depth_call`), so calls with none leave the depth of
the rest as it was, and a call with some makes the whole too shallow, which nothing behind it can
mend.

* `balancedFrom_withoutCalls`: dropping calls without inner parentheses keeps the balance;
* `inside_of_depth`: if no depth is lost, no call had inner parentheses;
* `balanced_iff_inside`: exactly when a rewrite is balanced.
-/
import Critique.Proofs.Rewrite.Calls

namespace Critique.Rewrite

open Text

/-! ## 1. Depth -/

/-- Whether the parentheses of a text are balanced: no beginning of the text closes more than it
opens, and the text opens as many as it closes. -/
def Balanced (s : List Char) : Prop :=
  (∀ front ∈ s.inits, front.count ')' ≤ front.count '(') ∧ s.count '(' = s.count ')'

instance (s : List Char) : Decidable (Balanced s) := inferInstanceAs (Decidable (_ ∧ _))

/-- How many more parentheses a text opens than it closes. -/
def depth (s : List Char) : Int :=
  s.count '(' - s.count ')'

@[simp] theorem depth_nil : depth [] = 0 := rfl

theorem depth_append (s t : List Char) : depth (s ++ t) = depth s + depth t := by
  simp only [depth, List.count_append]
  omega

theorem depth_cons (c : Char) (t : List Char) : depth (c :: t) = depth [c] + depth t :=
  depth_append [c] t

/-- Whether the parentheses of a text are balanced behind text of a depth. -/
def BalancedFrom (d : Int) (s : List Char) : Prop :=
  (∀ front, front <+: s → 0 ≤ d + depth front) ∧ d + depth s = 0

theorem balanced_iff {s : List Char} : Balanced s ↔ BalancedFrom 0 s := by
  have hfront : ∀ front : List Char, front.count ')' ≤ front.count '(' ↔ 0 ≤ 0 + depth front := by
    intro front
    simp only [depth]
    omega
  have hwhole : s.count '(' = s.count ')' ↔ 0 + depth s = 0 := by
    simp only [depth]
    omega
  simp only [Balanced, BalancedFrom, List.mem_inits, hfront, hwhole]

theorem BalancedFrom.nonneg {d : Int} {s : List Char} (h : BalancedFrom d s) : 0 ≤ d := by
  simpa using h.1 [] List.nil_prefix

theorem balancedFrom_cons {d : Int} {c : Char} {t : List Char} :
    BalancedFrom d (c :: t) ↔ 0 ≤ d ∧ BalancedFrom (d + depth [c]) t := by
  constructor
  · intro h
    refine ⟨h.nonneg, fun front hfront => ?_, ?_⟩
    · have := h.1 (c :: front) (List.cons_prefix_cons.mpr ⟨rfl, hfront⟩)
      rw [depth_cons] at this
      omega
    · have := h.2
      rw [depth_cons] at this
      omega
  · rintro ⟨hnonneg, hfronts, hwhole⟩
    refine ⟨fun front hfront => ?_, ?_⟩
    · cases front with
      | nil => simpa using hnonneg
      | cons e front =>
        obtain ⟨rfl, hrest⟩ := List.cons_prefix_cons.mp hfront
        have := hfronts front hrest
        rw [depth_cons]
        omega
    · rw [depth_cons]
      omega

/-- Behind a beginning of a balanced text goes on what is balanced from there. -/
theorem BalancedFrom.of_append {d : Int} {s t : List Char} (h : BalancedFrom d (s ++ t)) :
    BalancedFrom (d + depth s) t := by
  induction s generalizing d with
  | nil => simpa using h
  | cons c s ih =>
    have := ih (balancedFrom_cons.mp h).2
    rw [depth_cons]
    rwa [Int.add_assoc] at this

/-! ## 2. Substitutions -/

/-- The two parentheses. -/
def isParenthesis (c : Char) : Bool :=
  c == '(' || c == ')'

/-- Only the parentheses of a text matter. -/
theorem balancedFrom_filter {d : Int} {s : List Char} :
    BalancedFrom d (s.filter isParenthesis) ↔ BalancedFrom d s := by
  induction s generalizing d with
  | nil => rfl
  | cons c s ih =>
    rw [List.filter_cons, balancedFrom_cons, ← ih]
    split
    · exact balancedFrom_cons
    · rename_i hc
      have hflat : depth [c] = 0 := by
        simp only [isParenthesis, Bool.or_eq_true, beq_iff_eq, not_or] at hc
        simp [depth, hc.1, hc.2]
      rw [hflat, Int.add_zero]
      exact ⟨fun h => ⟨h.nonneg, h⟩, And.right⟩

/-- **A replacement with the same parentheses** leaves a text balanced or not. -/
theorem balanced_replaceAll {old new : String} (hne : old ≠ "")
    (h : new.toList.filter isParenthesis = old.toList.filter isParenthesis) (s : List Char) :
    Balanced (replaceAll old new s) ↔ Balanced s := by
  rw [balanced_iff, balanced_iff, ← balancedFrom_filter, filter_replaceAll hne h,
    balancedFrom_filter]

theorem balanced_swept (s : List Char) : Balanced (swept s) ↔ Balanced s := by
  rw [← fused_eq_swept, balanced_replaceAll (by decide) (by decide),
    balanced_replaceAll (by decide) (by decide), balanced_replaceAll (by decide) (by decide)]

/-! ## 3. Dropping calls -/

/-- **What a call takes out** is as deep as the parentheses opened inside of it. -/
theorem depth_call {s : List Char} (h : StartsCall s) :
    ∃ call, s = call ++ behindCall s ∧ depth call = (inside s).count '(' := by
  obtain ⟨front, rest, rfl, hfront⟩ := startsCall_iff.mp h
  obtain ⟨taken, htaken, hblank⟩ := exists_append_behind rest
  have hother : ∀ c ∈ taken, c ≠ '(' ∧ c ≠ ')' := by
    intro c hc
    rcases hblank c hc with rfl | hblank
    · decide
    · constructor <;> rintro rfl <;> exact absurd hblank (by decide)
  refine ⟨callHead.toList ++ (front ++ ')' :: taken), ?_, ?_⟩
  · rw [behindCall_eq hfront, List.append_assoc, List.append_assoc, List.cons_append, ← htaken]
  · have hhead : depth callHead.toList = 1 := by decide
    have hclosing : depth [')'] = -1 := by decide
    have hopen : taken.count '(' = 0 := List.count_eq_zero.mpr fun hc => (hother _ hc).1 rfl
    have hclose : taken.count ')' = 0 := List.count_eq_zero.mpr fun hc => (hother _ hc).2 rfl
    have hinner : front.count ')' = 0 := List.count_eq_zero.mpr hfront
    rw [inside_eq hfront, depth_append, depth_append, depth_cons, hhead, hclosing]
    simp only [depth, hopen, hclose, hinner]
    omega

/-- **Dropping calls without inner parentheses keeps the balance.** -/
theorem balancedFrom_withoutCalls {d : Int} {s : List Char} (h : BalancedFrom d s)
    (flat : ∀ t ∈ places callHead.toList s, '(' ∉ inside t) : BalancedFrom d (withoutCalls s) := by
  fun_induction withoutCalls s generalizing d with
  | case1 => exact h
  | case2 c t hcall ih =>
    obtain ⟨call, hs, hdepth⟩ := depth_call hcall
    have hplace : c :: t ∈ places callHead.toList (c :: t) :=
      mem_places.mpr ⟨List.suffix_refl _, hcall.1⟩
    have hflat : depth call = 0 := by
      rw [hdepth, List.count_eq_zero.mpr (flat _ hplace)]
      rfl
    have hbehind : BalancedFrom d (behindCall (c :: t)) := by
      rw [hs] at h
      simpa [hflat] using h.of_append
    refine ih hbehind fun u hu => flat u ?_
    obtain ⟨hsuffix, hbegins⟩ := mem_places.mp hu
    exact mem_places.mpr ⟨hsuffix.trans (behindCall_suffix hcall), hbegins⟩
  | case3 c t hcall ih =>
    obtain ⟨hnonneg, hrest⟩ := balancedFrom_cons.mp h
    refine balancedFrom_cons.mpr ⟨hnonneg, ih hrest fun u hu => flat u ?_⟩
    obtain ⟨hsuffix, hbegins⟩ := mem_places.mp hu
    exact mem_places.mpr ⟨hsuffix.trans (List.suffix_cons c t), hbegins⟩

/-- Dropping calls loses depth or keeps it. -/
theorem depth_withoutCalls_le (s : List Char) : depth (withoutCalls s) ≤ depth s := by
  fun_induction withoutCalls s with
  | case1 => exact Int.le_refl 0
  | case2 c t hcall ih =>
    obtain ⟨call, hs, hdepth⟩ := depth_call hcall
    have hsum : depth (c :: t) = depth call + depth (behindCall (c :: t)) := by
      rw [← depth_append, ← hs]
    omega
  | case3 c t hcall ih =>
    rw [depth_cons, depth_cons c t]
    omega

/-- **If no depth is lost, no call had inner parentheses**, nor had a call within one. -/
theorem inside_of_depth {s : List Char}
    (closed : ∀ t ∈ places callHead.toList s, StartsCall t)
    (h : depth (withoutCalls s) = depth s) :
    ∀ t ∈ places callHead.toList s, '(' ∉ inside t := by
  fun_induction withoutCalls s with
  | case1 => exact fun t ht => absurd ht (by rw [places_nil (by decide)]; exact List.not_mem_nil)
  | case2 c t hcall ih =>
    obtain ⟨call, hs, hdepth⟩ := depth_call hcall
    have hsum : depth (c :: t) = depth call + depth (behindCall (c :: t)) := by
      rw [← depth_append, ← hs]
    have hle := depth_withoutCalls_le (behindCall (c :: t))
    have hflat : '(' ∉ inside (c :: t) := List.count_eq_zero.mp (by omega)
    intro u hu
    obtain ⟨hsuffix, hbegins⟩ := mem_places.mp hu
    rcases suffix_of_call hcall hsuffix hbegins with hbehind | rfl | ⟨hopen, -⟩
    · refine ih (fun v hv => closed v ?_) (by omega) u (mem_places.mpr ⟨hbehind, hbegins⟩)
      obtain ⟨hv, hhead⟩ := mem_places.mp hv
      exact mem_places.mpr ⟨hv.trans (behindCall_suffix hcall), hhead⟩
    · exact hflat
    · exact absurd hopen hflat
  | case3 c t hcall ih =>
    intro u hu
    rw [depth_cons, depth_cons c t] at h
    obtain ⟨hsuffix, hbegins⟩ := mem_places.mp hu
    rcases List.suffix_cons_iff.mp hsuffix with rfl | hsuffix
    · exact absurd (closed _ hu) hcall
    · refine ih (fun v hv => closed v ?_) (by omega) u (mem_places.mpr ⟨hsuffix, hbegins⟩)
      obtain ⟨hv, hhead⟩ := mem_places.mp hv
      exact mem_places.mpr ⟨hv.trans (List.suffix_cons c t), hhead⟩

/-- In a balanced text every head goes on to a closing parenthesis. -/
theorem Balanced.startsCall {s t : List Char} (h : Balanced s)
    (ht : t ∈ places callHead.toList s) : StartsCall t := by
  obtain ⟨⟨front, rfl⟩, hbegins⟩ := mem_places.mp ht
  refine ⟨hbegins, ?_⟩
  obtain ⟨rest, rfl⟩ := hbegins
  rw [drop_callHead]
  have hbehind := (balanced_iff.mp h).of_append
  -- the head opens a parenthesis that only the rest can close
  have hrest := hbehind.of_append.2
  have hnonneg := hbehind.nonneg
  have hhead : depth callHead.toList = 1 := by decide
  refine List.count_pos_iff.mp ?_
  simp only [depth] at hrest hnonneg hhead
  omega

/-! ## 4. The whole rewrite -/

/-- **Exactly when the parentheses of a rewrite are balanced**, for a source with balanced ones: if
no parenthesis opens between the head of a call and the first closing one behind it. -/
theorem balanced_iff_inside {code : String} (h : Balanced code.toList) :
    Balanced (rewrite code).toList ↔
      ∀ call ∈ places callHead.toList code.toList, '(' ∉ inside call := by
  have hswept : Balanced (swept code.toList) := (balanced_swept _).mpr h
  have hrewrite : Balanced (rewrite code).toList ↔ Balanced (withoutCalls (swept code.toList)) := by
    rw [rewrite, String.toList_ofList, rewrite_eq_comp, fused_eq_swept, dropCalls_eq_withoutCalls]
    exact balanced_replaceAll (by decide) (by decide) _
  have hplaces : (∀ call ∈ places callHead.toList (swept code.toList), '(' ∉ inside call) ↔
      ∀ call ∈ places callHead.toList code.toList, '(' ∉ inside call := by
    rw [places_swept, List.forall_mem_map]
    exact forall₂_congr fun call hcall =>
      not_congr (mem_inside_swept (mem_places.mp hcall).2)
  rw [hrewrite, ← hplaces]
  constructor
  · intro hbalanced
    have hkept : depth (withoutCalls (swept code.toList)) = depth (swept code.toList) := by
      have hbefore := (balanced_iff.mp hswept).2
      have hafter := (balanced_iff.mp hbalanced).2
      omega
    exact inside_of_depth (fun call hcall => hswept.startsCall hcall) hkept
  · exact fun flat => balanced_iff.mpr (balancedFrom_withoutCalls (balanced_iff.mp hswept) flat)

/-- Two calls without inner parentheses, one of them in parentheses itself. -/
theorem balanced_iff_inside_of_two :
    Balanced "f(console.log(a), (b)); console.log(c);".toList ∧
      Balanced (rewrite "f(console.log(a), (b)); console.log(c);").toList := by
  have h : Balanced "f(console.log(a), (b)); console.log(c);".toList := by decide +kernel
  exact ⟨h, (balanced_iff_inside h).mpr (by decide +kernel)⟩

/-- **A rewrite can lose its balance**: of a call with a call in it, a closing parenthesis stays. -/
theorem not_balanced_nested :
    Balanced "console.log(f(x));".toList ∧
      ¬ Balanced (rewrite "console.log(f(x));").toList := by
  decide +kernel

end Critique.Rewrite
