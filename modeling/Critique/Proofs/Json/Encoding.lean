/-
# What is written is UTF-8

A JSON text is taken for UTF-16 or UTF-32 where one of its first bytes is zero.  In UTF-8 the
character zero is the only one with such a byte, and no value is written with it: inside a text it
is escaped, and outside of texts there are words, numbers and punctuation only.  So a value that is
sent in its compact form is taken for UTF-8, and read as it was.

* `characters?_of_notMem`: a text without the character zero is UTF-8;
* `zero_notMem_compact`: no value is written with the character zero;
* `characters?_render`: the compact form of a value, as it arrives.
-/
import Critique.Json.Encoding
import Critique.Proofs.Json.RoundTrip

namespace Critique.Json

/-! ## 1. Bytes -/

/-- Bytes of which none is zero give away no wide units. -/
theorem detect_of_ne_zero {bytes : List Nat} (h : ∀ b ∈ bytes, b ≠ 0) :
    Encoding.detect bytes = .utf8 := by
  match bytes, h with
  | [], _ => rfl
  | [_], _ => rfl
  | a :: b :: rest, h => exact detect_ascii (h a (by simp)) (h b (by simp)) rest

/-- The character zero is the only one with a zero among its bytes. -/
theorem encodeChar_ne_zero {c : Char} (h : c ≠ '\x00') : ∀ b ∈ Text.Utf8.encodeChar c, b ≠ 0 := by
  have hpos : c.toNat ≠ 0 := by
    intro hzero
    exact h (Char.toNat_inj.mp hzero)
  intro b hb
  simp only [Text.Utf8.encodeChar] at hb
  split at hb
  · obtain rfl := List.mem_singleton.mp hb
    exact hpos
  split at hb
  · simp only [List.mem_cons, List.not_mem_nil, or_false] at hb
    omega
  split at hb
  · simp only [List.mem_cons, List.not_mem_nil, or_false] at hb
    omega
  · simp only [List.mem_cons, List.not_mem_nil, or_false] at hb
    omega

/-- **A text without the character zero is UTF-8.** -/
theorem characters?_of_notMem {s : List Char} (h : '\x00' ∉ s) :
    characters? s = some (withoutMark s) := by
  have hdetect : Encoding.detect ((s.take 4).flatMap Text.Utf8.encodeChar) = .utf8 := by
    refine detect_of_ne_zero fun b hb => ?_
    obtain ⟨c, hc, hbc⟩ := List.mem_flatMap.mp hb
    have hne : c ≠ '\x00' := by
      rintro rfl
      exact h (List.mem_of_mem_take hc)
    exact encodeChar_ne_zero hne b hbc
  rw [characters?, hdetect]

/-! ## 2. Texts and numbers -/

theorem hexDigit_ne_zero (n : Nat) : Text.hexDigit (n % 16) ≠ '\x00' := by
  have hlt : n % 16 < 16 := Nat.mod_lt _ (by decide)
  interval_cases n % 16 <;> decide

theorem zero_notMem_unitEscape (n : Nat) : '\x00' ∉ unitEscape n := by
  simp only [unitEscape, Text.hex, List.nil_append, List.cons_append, List.mem_cons,
    List.not_mem_nil, or_false, not_or]
  exact ⟨by decide, by decide, (hexDigit_ne_zero _).symm, (hexDigit_ne_zero _).symm,
    (hexDigit_ne_zero _).symm, (hexDigit_ne_zero _).symm⟩

/-- A character inside a text is written without the character zero. -/
theorem zero_notMem_escape (ascii : Bool) (c : Char) : '\x00' ∉ escape ascii c.toNat := by
  have hescaped := escaped_escape ascii c
  generalize escape ascii c.toNat = written at hescaped
  cases hescaped with
  | short letter hletter =>
    rw [List.mem_cons, List.mem_singleton, not_or]
    refine ⟨by decide, ?_⟩
    rintro rfl
    have hnone : shortEscape? '\x00' = none := rfl
    exact absurd (hnone.symm.trans hletter) (by simp)
  | unit => exact zero_notMem_unitEscape _
  | pair =>
    rw [List.mem_append, not_or]
    exact ⟨zero_notMem_unitEscape _, zero_notMem_unitEscape _⟩
  | raw control =>
    rw [List.mem_singleton, Char.ofNat_toNat]
    rintro rfl
    exact absurd control (by decide)

theorem zero_notMem_writeText (ascii : Bool) (s : String) : '\x00' ∉ writeText ascii s := by
  rw [writeText, writeCodePoints, List.mem_append, List.mem_cons, List.mem_singleton, not_or, not_or]
  refine ⟨⟨by decide, ?_⟩, by decide⟩
  rw [List.flatMap_map, List.mem_flatMap]
  rintro ⟨c, -, hc⟩
  exact zero_notMem_escape ascii c hc

/-- A number is written without the character zero. -/
theorem zero_notMem_render (n : Int) : '\x00' ∉ Numeral.render n := by
  have h := Numeral.notMem_text (c := '\x00') rfl (by decide) n
  rwa [Numeral.text, String.toList_ofList] at h

/-! ## 3. Values -/

theorem zero_notMem_compactItems {items : List Json}
    (h : ∀ item ∈ items, '\x00' ∉ compact item) : '\x00' ∉ compactItems items := by
  induction items with
  | nil => exact List.not_mem_nil
  | cons item items ih =>
    rw [List.forall_mem_cons] at h
    cases items with
    | nil => exact h.1
    | cons next items =>
      rw [compactItems, List.mem_append, List.mem_cons, not_or, not_or]
      · exact ⟨h.1, by decide, ih h.2⟩
      · simp

theorem zero_notMem_compactMembers {members : List (Key × Json)}
    (named : ∀ member ∈ members, ∃ name, member.1 = .text name)
    (h : ∀ member ∈ members, '\x00' ∉ compact member.2) : '\x00' ∉ compactMembers members := by
  induction members with
  | nil => exact List.not_mem_nil
  | cons member members ih =>
    rw [List.forall_mem_cons] at named h
    obtain ⟨key, value⟩ := member
    obtain ⟨⟨name, rfl⟩, named⟩ := named
    have hmember : '\x00' ∉ writeKey false (.text name) ++ ':' :: compact value := by
      rw [List.mem_append, List.mem_cons, not_or, not_or]
      exact ⟨zero_notMem_writeText false name, by decide, h.1⟩
    cases members with
    | nil => exact hmember
    | cons next members =>
      rw [compactMembers, List.mem_append, List.mem_cons, not_or, not_or]
      · exact ⟨hmember, by decide, ih named h.2⟩
      · simp

/-- **No value is written with the character zero.** -/
theorem zero_notMem_compact {room : Nat} {value : Json} (h : Readable room value) :
    '\x00' ∉ compact value := by
  induction h with
  | null => decide
  | bool b => cases b <;> decide
  | int short => exact zero_notMem_render _
  | text s => exact zero_notMem_writeText false s
  | list each ih =>
    rw [compact, List.mem_append, List.mem_cons, List.mem_singleton, not_or, not_or]
    exact ⟨⟨by decide, zero_notMem_compactItems ih⟩, by decide⟩
  | object once named each ih =>
    rw [compact, List.mem_append, List.mem_cons, List.mem_singleton, not_or, not_or]
    exact ⟨⟨by decide, zero_notMem_compactMembers named ih⟩, by decide⟩

/-- **The compact form of a value is taken for UTF-8.** -/
theorem characters?_render {room : Nat} {value : Json} (h : Readable room value) :
    characters? (render value).toList = some (render value).toList := by
  obtain ⟨c, t, hcons, -, -, hmark⟩ := write_eq_cons Layout.dense h 0
  have hzero := zero_notMem_compact h
  rw [compact_eq_write h 0, hcons] at hzero
  rw [render, String.toList_ofList, compact_eq_write h 0, hcons, characters?_of_notMem hzero,
    withoutMark]
  intro rest hrest
  exact hmark (List.cons.inj hrest).1

end Critique.Json
