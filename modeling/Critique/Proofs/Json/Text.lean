/-
# Texts read back

A text between quotes reads back as itself, however it was escaped. An escaped character is read as
the units of its escape, one or two, and the two halves of a surrogate pair are joined again once
the whole text is there.

* `escaped_escape`: the ways in which a character is written;
* `readString_escape`: one character, whatever follows it;
* `joinPairs_units`: the units of characters join to the characters;
* `readKey_writeKey`: the name of a member.
-/
import Critique.Json.Reader
import Critique.Json.Writer
import Mathlib.Tactic.IntervalCases

namespace Critique.Json

/-! ## 1. Escapes of one unit -/

theorem hexValue?_hexDigit {n : Nat} (h : n < 16) : hexValue? (Text.hexDigit n) = some n := by
  interval_cases n <;> rfl

/-- Four hexadecimal digits hold sixteen bits. -/
theorem hex4?_hex {n : Nat} (h : n < 0x10000) :
    ∃ a b c d, Text.hex 4 n = [a, b, c, d] ∧ hex4? a b c d = some n := by
  refine ⟨_, _, _, _, rfl, ?_⟩
  have hdigit (m : Nat) : hexValue? (Text.hexDigit (m % 16)) = some (m % 16) :=
    hexValue?_hexDigit (Nat.mod_lt _ (by decide))
  simp only [hex4?, hdigit, Option.some.injEq]
  omega

/-- What is read after a character is put behind its units. -/
def behind (units : List Nat) (step : Step (List Nat)) : Step (List Nat) :=
  step.map fun (codePoints, rest) => (units ++ codePoints, rest)

theorem andThen_eq_behind (n : Nat) (step : Step (List Nat)) : andThen n step = behind [n] step := rfl

theorem behind_append (m n : List Nat) (step : Step (List Nat)) :
    behind (m ++ n) step = behind m (behind n step) := by
  cases step <;> simp [behind, Except.map]

theorem readString_unitEscape {n : Nat} (h : n < 0x10000) (opening : Nat) {rest : List Char}
    (more : rest ≠ []) :
    readString opening (unitEscape n ++ rest) = behind [n] (readString opening rest) := by
  obtain ⟨a, b, c, d, hhex, hvalue⟩ := hex4?_hex h
  obtain ⟨e, t, rfl⟩ := List.exists_cons_of_ne_nil more
  rw [unitEscape, hhex]
  simp only [List.cons_append, List.nil_append]
  rw [readString.eq_def]
  simp only [hvalue]
  rfl

theorem readString_shortEscape {c escaped : Char} (hc : shortEscape? c = some escaped)
    (opening : Nat) (rest : List Char) :
    readString opening ('\\' :: c :: rest) = behind [escaped.toNat] (readString opening rest) := by
  have hu : c ≠ 'u' := by
    rintro rfl
    simp [shortEscape?] at hc
  rw [readString]
  · simp [hu, hc, andThen_eq_behind]
  · intro _ _ _ _ _ hcu _
    exact hu hcu

theorem readString_raw {c : Char} (control : 0x20 ≤ c.toNat) (quote : c ≠ '\x22')
    (backslash : c ≠ '\\') (opening : Nat) (rest : List Char) :
    readString opening (c :: rest) = behind [c.toNat] (readString opening rest) := by
  rw [readString]
  · rw [if_neg (by omega)]
    rfl
  all_goals simp [quote, backslash]

/-! ## 2. The units of a character -/

/-- What a reader takes one written code point for: itself, or the halves of a surrogate pair. -/
def units (ascii : Bool) (n : Nat) : List Nat :=
  if ascii ∧ 0x10000 ≤ n then [0xD800 + (n - 0x10000) / 0x400, 0xDC00 + (n - 0x10000) % 0x400]
  else [n]

theorem units_of_lt {n : Nat} (h : n < 0x10000) (ascii : Bool) : units ascii n = [n] :=
  if_neg fun both => absurd both.2 (by omega)

/-- No character is half of a surrogate pair. -/
theorem toNat_not_half (c : Char) : c.toNat < 0xD800 ∨ (0xE000 ≤ c.toNat ∧ c.toNat < 0x110000) := by
  have := c.valid
  simp only [UInt32.isValidChar, Nat.isValidChar] at this
  have hc : c.val.toNat = c.toNat := rfl
  omega

/-- The ways in which a character is written: with an escape of two characters, as one unit, as the
two halves of a surrogate pair, or as it is. -/
inductive Escaped (ascii : Bool) (n : Nat) : List Char → Prop
  | short {c : Char} (escaped : Char) (letter : shortEscape? c = some escaped)
      (value : escaped.toNat = n) (small : n < 0x10000) : Escaped ascii n ['\\', c]
  | unit (small : n < 0x10000) : Escaped ascii n (unitEscape n)
  | pair (forced : ascii = true) (large : 0x10000 ≤ n) :
      Escaped ascii n (unitEscape (0xD800 + (n - 0x10000) / 0x400) ++
        unitEscape (0xDC00 + (n - 0x10000) % 0x400))
  | raw (control : 0x20 ≤ n) (quote : n ≠ 0x22) (backslash : n ≠ 0x5C)
      (whole : ¬(ascii = true ∧ 0x10000 ≤ n)) : Escaped ascii n [Char.ofNat n]

/-- Beyond ASCII a character is escaped if this is asked for, as one unit or as two. -/
theorem escaped_pointEscape {ascii : Bool} {n : Nat} (forced : n < 0x10000 ∨ ascii = true) :
    Escaped ascii n (pointEscape n) := by
  unfold pointEscape
  split
  · next h => exact .unit h
  · next h => exact .pair (forced.resolve_left h) (Nat.le_of_not_lt h)

/-- **A character is written in one of these ways.** -/
theorem escaped_escape (ascii : Bool) (c : Char) : Escaped ascii c.toNat (escape ascii c.toNat) := by
  have hhalf := toNat_not_half c
  unfold escape
  split
  · next h => exact .short '\x22' rfl h.symm (by omega)
  split
  · next h => exact .short '\\' rfl h.symm (by omega)
  split
  · next h => exact .short '\x08' rfl h.symm (by omega)
  split
  · next h => exact .short '\x0c' rfl h.symm (by omega)
  split
  · next h => exact .short '\n' rfl h.symm (by omega)
  split
  · next h => exact .short '\r' rfl h.symm (by omega)
  split
  · next h => exact .short '\t' rfl h.symm (by omega)
  split
  · exact .unit (by omega)
  split
  · next h =>
    refine escaped_pointEscape (h.elim (fun forced => .inr forced.1) fun half => .inl ?_)
    omega
  · next hquote hbackslash _ _ _ _ _ hcontrol hraw =>
    refine .raw (by omega) hquote hbackslash fun both => hraw (.inl ⟨both.1, ?_⟩)
    omega

/-- **A written character is read as its units**, whatever follows it. -/
theorem readString_escape (ascii : Bool) (c : Char) (opening : Nat) {rest : List Char}
    (more : rest ≠ []) :
    readString opening (escape ascii c.toNat ++ rest)
      = behind (units ascii c.toNat) (readString opening rest) := by
  have hhalf := toNat_not_half c
  have hescaped := escaped_escape ascii c
  generalize escape ascii c.toNat = written at hescaped ⊢
  cases hescaped with
  | short _ letter value small =>
    rw [units_of_lt small, ← value]
    exact readString_shortEscape letter opening rest
  | unit small =>
    rw [units_of_lt small]
    exact readString_unitEscape small opening more
  | pair forced large =>
    rw [units, if_pos ⟨forced, large⟩, List.append_assoc,
      readString_unitEscape (by omega) opening (by simp [unitEscape]),
      readString_unitEscape (by omega) opening more, ← behind_append]
    rfl
  | raw control quote backslash whole =>
    rw [units, if_neg whole, Char.ofNat_toNat]
    refine readString_raw control ?_ ?_ opening rest
    · rintro rfl
      exact quote rfl
    · rintro rfl
      exact backslash rfl

/-! ## 3. Whole texts -/

/-- **What stands between quotes is read as the units of its characters.** -/
theorem readString_writeText (ascii : Bool) (cs : List Char) (opening : Nat) (rest : List Char) :
    readString opening ((cs.map Char.toNat).flatMap (escape ascii) ++ '\x22' :: rest)
      = .ok (cs.flatMap fun c => units ascii c.toNat, rest) := by
  induction cs with
  | nil => exact readString_quote opening rest
  | cons c cs ih =>
    rw [List.map_cons, List.flatMap_cons, List.append_assoc,
      readString_escape ascii c opening (by simp), ih, List.flatMap_cons]
    rfl

theorem joinPairs_cons {n : Nat} (h : isHighHalf n = false) (rest : List Nat) :
    joinPairs (n :: rest) = n :: joinPairs rest := by
  cases rest with
  | nil => rfl
  | cons m rest => simp [joinPairs, h]

theorem joinPairs_pair {high low : Nat} (hhigh : isHighHalf high = true)
    (hlow : isLowHalf low = true) (rest : List Nat) :
    joinPairs (high :: low :: rest) = joinHalves high low :: joinPairs rest := by
  rw [joinPairs, hhigh, hlow]
  rfl

/-- The halves of a code point join to it. -/
theorem joinHalves_halves {n : Nat} (h : 0x10000 ≤ n) :
    joinHalves (0xD800 + (n - 0x10000) / 0x400) (0xDC00 + (n - 0x10000) % 0x400) = n := by
  have hsplit := Nat.div_add_mod (n - 0x10000) 0x400
  generalize (n - 0x10000) / 0x400 = a, (n - 0x10000) % 0x400 = b at *
  unfold joinHalves
  omega

/-- **The units of characters join to the characters.** -/
theorem joinPairs_units (ascii : Bool) (cs : List Char) :
    joinPairs (cs.flatMap fun c => units ascii c.toNat) = cs.map Char.toNat := by
  induction cs with
  | nil => rfl
  | cons c cs ih =>
    have hhalf := toNat_not_half c
    rw [List.flatMap_cons, List.map_cons]
    by_cases hpair : ascii = true ∧ 0x10000 ≤ c.toNat
    · have hhigh : isHighHalf (0xD800 + (c.toNat - 0x10000) / 0x400) = true := by
        simp only [isHighHalf, Bool.and_eq_true, decide_eq_true_eq]
        omega
      have hlow : isLowHalf (0xDC00 + (c.toNat - 0x10000) % 0x400) = true := by
        simp only [isLowHalf, Bool.and_eq_true, decide_eq_true_eq]
        omega
      rw [units, if_pos hpair, List.cons_append, List.cons_append, List.nil_append,
        joinPairs_pair hhigh hlow, joinHalves_halves hpair.2, ih]
    · have hhigh : isHighHalf c.toNat = false := by
        simp only [isHighHalf, Bool.and_eq_false_iff, decide_eq_false_iff_not]
        omega
      rw [units, if_neg hpair, List.cons_append, List.nil_append, joinPairs_cons hhigh, ih]

theorem ofCodePoints_units (ascii : Bool) (s : String) :
    Key.ofCodePoints (s.toList.flatMap fun c => units ascii c.toNat) = .text s := by
  have hwhole : ((s.toList.map Char.toNat).any fun n => isHighHalf n || isLowHalf n) = false := by
    rw [List.any_eq_false]
    intro n hn
    obtain ⟨c, -, rfl⟩ := List.mem_map.mp hn
    have hhalf := toNat_not_half c
    simp only [isHighHalf, isLowHalf, Bool.or_eq_true, Bool.and_eq_true, decide_eq_true_eq]
    omega
  have hchars : (s.toList.map Char.toNat).map Char.ofNat = s.toList := by
    rw [List.map_map]
    exact List.map_id'' Char.ofNat_toNat _
  simp only [Key.ofCodePoints, joinPairs_units, hwhole, hchars, String.ofList_toList]
  rfl

/-- **The name of a member reads back.** -/
theorem readKey_writeKey (ascii : Bool) (s : String) (rest : List Char) :
    readKey (writeKey ascii (.text s) ++ rest) = .ok (.text s, rest) := by
  simp only [writeKey, writeCodePoints, Key.codePoints, List.cons_append, List.append_assoc,
    List.nil_append, readKey, readString_writeText]
  simp only [Except.map, ofCodePoints_units]

end Critique.Json
