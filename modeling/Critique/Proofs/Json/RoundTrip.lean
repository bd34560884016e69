/-
# Values read back

A value that JSON can spell reads back as itself, whatever the layout it is written in. A `Layout`
says how lines are broken and which gap stands behind a colon; the compact form and the indented
form are two of its instances, so the round trip is proved once, for every layout.

The reader spends two steps for each list or object and for each of their items, and the text of
each is at least one character long: twice the length of a text is steps enough.

* `readNumber_render`: an integer within the limit reads back;
* `readValue_write`: a `Readable` value reads back, in any layout, in front of anything that may
  follow it;
* `read_render`: the compact form of a value reads back.
-/
import Critique.Proofs.Json.Text
import Critique.Proofs.Text.Numeral

namespace Critique.Json

/-! ## 1. Integers -/

/-- What may follow a value: nothing, a gap, a comma, or what closes a list or an object. -/
def Follows (rest : List Char) : Prop :=
  ∀ c ∈ rest.head?, isGap c = true ∨ c = ',' ∨ c = ']' ∨ c = '\x7d'

theorem Follows.ne {c d : Char} {t : List Char} (h : Follows (c :: t))
    (gap : isGap d = false) (comma : d ≠ ',') (bracket : d ≠ ']') (brace : d ≠ '\x7d') : c ≠ d := by
  rintro rfl
  rcases h c (by simp) with h | h | h | h
  · exact absurd h (by simp [gap])
  · exact comma h
  · exact bracket h
  · exact brace h

/-- No digit follows a value. -/
theorem Follows.digit {rest : List Char} (h : Follows rest) :
    ∀ c ∈ rest.head?, Text.asciiDigitValue? c = none := by
  intro c hc
  rcases h c hc with h | rfl | rfl | rfl
  · simp only [isGap, Bool.or_eq_true, beq_iff_eq] at h
    rcases h with ((rfl | rfl) | rfl) | rfl <;> rfl
  all_goals rfl

theorem Follows.readFraction {rest : List Char} (h : Follows rest) :
    readFraction rest = ([], rest) := by
  cases rest with
  | nil => rfl
  | cons c t =>
    have hc : c ≠ '.' := h.ne rfl (by decide) (by decide) (by decide)
    rw [Json.readFraction]
    simp [hc]

theorem Follows.readExponent {rest : List Char} (h : Follows rest) : readExponent rest = none := by
  cases rest with
  | nil => rfl
  | cons c t =>
    have hsmall : c ≠ 'e' := h.ne rfl (by decide) (by decide) (by decide)
    have hcapital : c ≠ 'E' := h.ne rfl (by decide) (by decide) (by decide)
    simp [Json.readExponent, hsmall, hcapital]

/-- A magnitude without a fraction and an exponent is read by its digits. -/
theorem readMagnitude_renderNat (n : Nat) {rest : List Char} (h : Follows rest) :
    readMagnitude (Numeral.renderNat n ++ rest) = some (.int (Numeral.digits n), rest) := by
  have hrun := Numeral.plainRun_renderNat n h.digit
  obtain ⟨d, ds, hdigits, hd, -, hrender⟩ := Numeral.renderNat_eq_cons n
  by_cases hn : n = 0
  · subst hn
    simp [readMagnitude, Numeral.renderNat, Numeral.digits, Numeral.digitChar,
      h.readFraction, h.readExponent]
  · have hzero : Numeral.digitChar d ≠ '0' := by
      intro hc
      have hd0 : d = 0 := by
        have hvalue := Numeral.asciiDigitValue?_digitChar hd
        rw [hc] at hvalue
        exact (Option.some.inj hvalue).symm
      exact hn (Numeral.eq_zero_of_head_digits (by simp [hdigits, hd0]))
    rw [hrender, hdigits] at hrun ⊢
    rw [List.cons_append] at hrun ⊢
    simp [readMagnitude, hzero, hrun, h.readFraction, h.readExponent]

/-- **A written integer reads back.** -/
theorem readNumber_render {n : Int} (short : Numeral.Short n) {rest : List Char}
    (h : Follows rest) :
    readNumber (Numeral.render n ++ rest) = .ok (.int n, rest) := by
  cases n with
  | ofNat k =>
    have hread := readMagnitude_renderNat k h
    have hlimit := Numeral.withinLimit_digits short false
    obtain ⟨d, ds, -, hd, -, hrender⟩ := Numeral.renderNat_eq_cons k
    have hminus : Numeral.digitChar d ≠ '-' := Numeral.digitChar_ne hd rfl
    rw [Numeral.render]
    rw [hrender, List.cons_append] at hread ⊢
    simp only [Int.natAbs_natCast, Int.ofNat_eq_natCast] at hlimit
    simp [readNumber, hminus, hread, Written.value, hlimit, Except.map, Except.mapError]
  | negSucc k =>
    have hread := readMagnitude_renderNat (k + 1) h
    have hlimit := Numeral.withinLimit_digits short true
    simp only [Int.natAbs_negSucc] at hlimit
    rw [Numeral.render, List.cons_append]
    simp [readNumber, hread, Written.value, hlimit, Except.map, Except.mapError]
    omega

/-! ## 2. Values that hold no other -/

/-- A word is not taken off a text that begins with another character. -/
theorem word?_of_ne (word : String) {c d : Char} (hword : word.toList.head? = some d) (hne : c ≠ d)
    (t : List Char) : word? word (c :: t) = none := by
  cases hw : word.toList with
  | nil => simp [hw] at hword
  | cons e w =>
    have hed : e = d := by simpa [hw] using hword
    have hec : e ≠ c := fun h => hne (h ▸ hed)
    simp [word?, hw, List.isPrefixOf, hec]

/-- What begins with a quote is read as a text. -/
theorem readPlain_quote (t : List Char) :
    readPlain ('\x22' :: t) = (readString (t.length + 1) t).map fun (codePoints, rest) =>
      ((Key.ofCodePoints codePoints).value, rest) := rfl

/-- What begins like no word and not with a quote is read as a number. -/
theorem readPlain_of_ne {c : Char} {t : List Char} (hnull : c ≠ 'n') (htrue : c ≠ 't')
    (hfalse : c ≠ 'f') (hnan : c ≠ 'N') (hinfinity : c ≠ 'I') (hquote : c ≠ '\x22')
    (hminus : word? "-Infinity" (c :: t) = none) : readPlain (c :: t) = readNumber (c :: t) := by
  have h1 := word?_of_ne "null" rfl hnull t
  have h2 := word?_of_ne "true" rfl htrue t
  have h3 := word?_of_ne "false" rfl hfalse t
  have h4 := word?_of_ne "NaN" rfl hnan t
  have h5 := word?_of_ne "Infinity" rfl hinfinity t
  simp [readPlain, words, h1, h2, h3, h4, h5, hminus, hquote]

theorem readPlain_int (ascii : Bool) {n : Int} (short : Numeral.Short n) {rest : List Char}
    (h : Follows rest) : readPlain (writePlain ascii (.int n) ++ rest) = .ok (.int n, rest) := by
  have hread := readNumber_render short h
  have hdigit {d : Nat} (hd : d < 10) {c : Char} (hc : Text.asciiDigitValue? c = none) :
      Numeral.digitChar d ≠ c := Numeral.digitChar_ne hd hc
  rw [writePlain]
  cases n with
  | ofNat k =>
    obtain ⟨d, ds, -, hd, -, hrender⟩ := Numeral.renderNat_eq_cons k
    rw [Numeral.render, hrender, List.cons_append] at hread ⊢
    rw [readPlain_of_ne (hdigit hd rfl) (hdigit hd rfl) (hdigit hd rfl) (hdigit hd rfl)
      (hdigit hd rfl) (hdigit hd rfl) (word?_of_ne "-Infinity" rfl (hdigit hd rfl) _)]
    exact hread
  | negSucc k =>
    obtain ⟨d, ds, -, hd, -, hrender⟩ := Numeral.renderNat_eq_cons (k + 1)
    rw [Numeral.render, hrender, List.cons_append, List.cons_append] at hread ⊢
    have hinfinity : 'I' ≠ Numeral.digitChar d := (hdigit hd rfl).symm
    rw [readPlain_of_ne (by decide) (by decide) (by decide) (by decide) (by decide) (by decide)]
    · exact hread
    · simp [word?, List.isPrefixOf, hinfinity]

theorem readPlain_text (ascii : Bool) (s : String) (rest : List Char) :
    readPlain (writePlain ascii (.text s) ++ rest) = .ok (.text s, rest) := by
  rw [writePlain, writeText, writeCodePoints, List.cons_append, List.cons_append, List.append_assoc,
    readPlain_quote, List.cons_append, List.nil_append, readString_writeText, Except.map]
  simp only [ofCodePoints_units, Key.value]

/-! ## 3. Layouts -/

/-- How a value is laid out: whether characters beyond ASCII are escaped, the gap in front of what
stands at a depth, and the gap behind a colon. -/
structure Layout where
  ascii : Bool
  line : Nat → List Char
  colon : List Char
  isGap_line : ∀ depth, ∀ c ∈ line depth, isGap c = true
  isGap_colon : ∀ c ∈ colon, isGap c = true

namespace Layout

variable (L : Layout)

mutual

/-- A value that stands at the given depth, in a layout. -/
def write (depth : Nat) : Json → List Char
  | .list [] => ['[', ']']
  | .list (item :: rest) =>
    '[' :: (L.line (depth + 1) ++ (write (depth + 1) item ++ (writeItems (depth + 1) rest
      ++ (L.line depth ++ [']']))))
  | .object [] => ['\x7b', '\x7d']
  | .object ((key, value) :: rest) =>
    '\x7b' :: (L.line (depth + 1) ++ (writeKey L.ascii key ++ ':' :: (L.colon
      ++ (write (depth + 1) value ++ (writeMembers (depth + 1) rest
        ++ (L.line depth ++ ['\x7d']))))))
  | plain => writePlain L.ascii plain
termination_by structural value => value

/-- The items after the first, each behind a comma. -/
def writeItems (depth : Nat) : List Json → List Char
  | [] => []
  | item :: rest => ',' :: (L.line depth ++ (write depth item ++ writeItems depth rest))
termination_by structural items => items

/-- The members after the first, each behind a comma. -/
def writeMembers (depth : Nat) : List (Key × Json) → List Char
  | [] => []
  | (key, value) :: rest =>
    ',' :: (L.line depth ++ (writeKey L.ascii key ++ ':' :: (L.colon ++ (write depth value
      ++ writeMembers depth rest))))
termination_by structural members => members

end

end Layout

/-- The layout without any gap. -/
def Layout.dense : Layout where
  ascii := false
  line := fun _ => []
  colon := []
  isGap_line := fun _ _ h => absurd h (List.not_mem_nil)
  isGap_colon := fun _ h => absurd h (List.not_mem_nil)

/-- A value that reads back where at most `room` lists and objects may lie in one another: its
integers are within the limit, no name stands twice, and nothing in it is a fraction or holds half
of a surrogate pair. -/
inductive Readable : Nat → Json → Prop
  | null {room : Nat} : Readable room .null
  | bool {room : Nat} (value : Bool) : Readable room (.bool value)
  | int {room : Nat} {n : Int} (short : Numeral.Short n) : Readable room (.int n)
  | text {room : Nat} (s : String) : Readable room (.text s)
  | list {room : Nat} {items : List Json} (each : ∀ item ∈ items, Readable room item) :
      Readable (room + 1) (.list items)
  | object {room : Nat} {members : List (Key × Json)} (once : (members.map Prod.fst).Nodup)
      (named : ∀ member ∈ members, ∃ name, member.1 = .text name)
      (each : ∀ member ∈ members, Readable room member.2) : Readable (room + 1) (.object members)

/-- An object that reads back still does when it has another text in it. -/
theorem Readable.set {room : Nat} {members : List (Key × Json)}
    (h : Readable (room + 1) (.object members)) (name text : String) :
    Readable (room + 1) (.object (Entries.set (.text name) (.text text) members)) := by
  cases h with
  | object once named each =>
    refine .object (Entries.nodup_set once _ _) (fun member hmember => ?_) fun member hmember => ?_
    · rcases Entries.mem_set hmember with hold | rfl
      · exact named member hold
      · exact ⟨name, rfl⟩
    · rcases Entries.mem_set hmember with hold | rfl
      · exact each member hold
      · exact .text text

/-- A written integer begins with a digit or a minus. -/
theorem render_eq_cons (n : Int) : ∃ c t, Numeral.render n = c :: t ∧ isGap c = false ∧ c ≠ ']'
    ∧ c ≠ '\uFEFF' ∧ c ≠ '[' ∧ c ≠ '\x7b' := by
  cases n with
  | ofNat k =>
    obtain ⟨d, ds, -, hd, -, hrender⟩ := Numeral.renderNat_eq_cons k
    refine ⟨_, _, hrender, ?_, Numeral.digitChar_ne hd rfl, Numeral.digitChar_ne hd rfl,
      Numeral.digitChar_ne hd rfl, Numeral.digitChar_ne hd rfl⟩
    interval_cases d <;> rfl
  | negSucc k => exact ⟨_, _, rfl, rfl, by decide, by decide, by decide, by decide⟩

/-- A written value begins with no gap, no mark, and nothing that closes a list. -/
theorem write_eq_cons (L : Layout) {room : Nat} {value : Json} (h : Readable room value)
    (depth : Nat) : ∃ c t, L.write depth value = c :: t ∧ isGap c = false ∧ c ≠ ']'
      ∧ c ≠ '\uFEFF' := by
  cases h with
  | null => exact ⟨_, _, rfl, rfl, by decide, by decide⟩
  | bool b => cases b <;> exact ⟨_, _, rfl, rfl, by decide, by decide⟩
  | text s => exact ⟨_, _, rfl, rfl, by decide, by decide⟩
  | @int _ n short =>
    obtain ⟨c, t, hrender, hgap, hbracket, hmark, -⟩ := render_eq_cons n
    exact ⟨c, t, hrender, hgap, hbracket, hmark⟩
  | @list _ items each => cases items <;> exact ⟨_, _, rfl, rfl, by decide, by decide⟩
  | @object _ members once named each => cases members <;> exact ⟨_, _, rfl, rfl, by decide, by decide⟩

/-! ## 4. Nested values -/

theorem skipGap_append {gap : List Char} (h : ∀ c ∈ gap, isGap c = true) (s : List Char) :
    skipGap (gap ++ s) = skipGap s := by
  rw [skipGap, List.dropWhile_append_of_pos h, skipGap]

theorem skipGap_of_not {c : Char} (h : isGap c = false) (t : List Char) :
    skipGap (c :: t) = c :: t := by
  simp [skipGap, h]

/-- A gap ends where a character stands that is none. -/
theorem skipGap_gap {gap : List Char} (h : ∀ c ∈ gap, isGap c = true) {c : Char}
    (hc : isGap c = false) (t : List Char) : skipGap (gap ++ c :: t) = c :: t := by
  rw [skipGap_append h, skipGap_of_not hc]

/-- Behind a gap the reader finds the value. -/
theorem skipGap_write (L : Layout) {gap : List Char} (hgap : ∀ c ∈ gap, isGap c = true)
    {room : Nat} {value : Json} (h : Readable room value) (depth : Nat) (s : List Char) :
    skipGap (gap ++ (L.write depth value ++ s)) = L.write depth value ++ s := by
  obtain ⟨c, t, hwrite, hc, -, -⟩ := write_eq_cons L h depth
  rw [hwrite, List.cons_append, skipGap_gap hgap hc]

/-- A gap may follow a value, if what stands behind it may. -/
theorem follows_gap {gap : List Char} (h : ∀ c ∈ gap, isGap c = true) {s : List Char}
    (hs : Follows s) : Follows (gap ++ s) := by
  cases gap with
  | nil => exact hs
  | cons c gap =>
    intro d hd
    have hcd : c = d := by simpa using hd
    exact Or.inl (hcd ▸ h c (by simp))

theorem follows_comma (t : List Char) : Follows (',' :: t) := by
  intro c hc
  have hcomma : ',' = c := by simpa using hc
  exact Or.inr (Or.inl hcomma.symm)

theorem follows_bracket (t : List Char) : Follows (']' :: t) := by
  intro c hc
  have hbracket : ']' = c := by simpa using hc
  exact Or.inr (Or.inr (Or.inl hbracket.symm))

theorem follows_brace (t : List Char) : Follows ('\x7d' :: t) := by
  intro c hc
  have hbrace : '\x7d' = c := by simpa using hc
  exact Or.inr (Or.inr (Or.inr hbrace.symm))

/-- What opens neither a list nor an object is read as a value that holds no other. -/
theorem readValue_of_ne {c : Char} (bracket : c ≠ '[') (brace : c ≠ '\x7b') (fuel room : Nat)
    (t : List Char) : readValue (fuel + 1) room (c :: t) = readPlain (c :: t) := by
  rw [readValue]
  all_goals simp [bracket, brace]

/-- A value reads back in front of anything that may follow it, with two steps for each character. -/
def ReadsBack (L : Layout) (room : Nat) (value : Json) : Prop :=
  ∀ (depth fuel : Nat) (rest : List Char), Follows rest →
    2 * (L.write depth value).length ≤ fuel →
    readValue fuel room (L.write depth value ++ rest) = .ok (value, rest)

/-- **The items of a list read back**, up to the bracket that closes it. -/
theorem readItems_write (L : Layout) {room : Nat} (depth outer : Nat) (rest : List Char)
    (items : List Json) : ∀ (item : Json) (fuel : Nat),
      (∀ value ∈ item :: items, Readable room value ∧ ReadsBack L room value) →
      2 * ((L.write depth item).length + (L.writeItems depth items).length) + 1 ≤ fuel →
      readItems fuel room (L.write depth item ++ (L.writeItems depth items
        ++ (L.line outer ++ ']' :: rest))) = .ok (item :: items, rest) := by
  induction items with
  | nil =>
    intro item fuel each hfuel
    obtain ⟨f, rfl⟩ : ∃ f, fuel = f + 1 := ⟨fuel - 1, by omega⟩
    have hitem := (each item (by simp)).2 depth f (L.line outer ++ ']' :: rest)
      (follows_gap (L.isGap_line outer) (follows_bracket rest)) (by omega)
    have hskip : skipGap (L.line outer ++ ']' :: rest) = ']' :: rest :=
      skipGap_gap (L.isGap_line outer) rfl rest
    simp only [Layout.writeItems, List.nil_append, readItems, hitem, bind, Except.bind, hskip]
    rfl
  | cons next items ih =>
    intro item fuel each hfuel
    obtain ⟨f, rfl⟩ : ∃ f, fuel = f + 1 := ⟨fuel - 1, by omega⟩
    simp only [Layout.writeItems, List.length_cons, List.length_append] at hfuel
    have hnext := ih next f (fun value h => each value (by simp [h])) (by omega)
    have hitem := (each item (by simp)).2 depth f _
      (follows_comma (L.line depth ++ (L.write depth next ++ (L.writeItems depth items
        ++ (L.line outer ++ ']' :: rest))))) (by omega)
    have hskip := skipGap_write L (L.isGap_line depth) (each next (by simp)).1 depth
    simp only [Layout.writeItems, List.cons_append, List.append_assoc, readItems, hitem, bind,
      Except.bind, skipGap_of_not (show isGap ',' = false from rfl), hskip, hnext]
    rfl

/-- **The members of an object read back**, up to the brace that closes it. -/
theorem readMembers_write (L : Layout) {room : Nat} (depth outer : Nat) (rest : List Char)
    (members : List (Key × Json)) : ∀ (name : String) (value : Json) (fuel : Nat),
      (∀ member ∈ (.text name, value) :: members, (∃ name, member.1 = .text name)
        ∧ Readable room member.2 ∧ ReadsBack L room member.2) →
      2 * ((L.write depth value).length + (L.writeMembers depth members).length) + 1 ≤ fuel →
      readMembers fuel room (writeKey L.ascii (.text name) ++ ':' :: (L.colon
        ++ (L.write depth value ++ (L.writeMembers depth members
          ++ (L.line outer ++ '\x7d' :: rest))))) = .ok ((.text name, value) :: members, rest) := by
  induction members with
  | nil =>
    intro name value fuel each hfuel
    obtain ⟨f, rfl⟩ : ∃ f, fuel = f + 1 := ⟨fuel - 1, by omega⟩
    obtain ⟨-, hreadable, hback⟩ : _ ∧ Readable room value ∧ ReadsBack L room value :=
      each _ List.mem_cons_self
    have hvalue := hback depth f (L.line outer ++ '\x7d' :: rest)
      (follows_gap (L.isGap_line outer) (follows_brace rest)) (by omega)
    have hcolon := skipGap_write L L.isGap_colon hreadable depth
    have hskip : skipGap (L.line outer ++ '\x7d' :: rest) = '\x7d' :: rest :=
      skipGap_gap (L.isGap_line outer) rfl rest
    simp only [Layout.writeMembers, List.nil_append, readMembers, readKey_writeKey, bind,
      Except.bind, skipGap_of_not (show isGap ':' = false from rfl), hcolon, hvalue, hskip]
    rfl
  | cons next members ih =>
    intro name value fuel each hfuel
    obtain ⟨f, rfl⟩ : ∃ f, fuel = f + 1 := ⟨fuel - 1, by omega⟩
    obtain ⟨-, hreadable, hback⟩ : _ ∧ Readable room value ∧ ReadsBack L room value :=
      each _ List.mem_cons_self
    obtain ⟨key, nextValue⟩ := next
    obtain ⟨⟨nextName, rfl : key = .text nextName⟩, -, -⟩ := each (key, nextValue) (by simp)
    simp only [Layout.writeMembers, List.length_cons, List.length_append] at hfuel
    have hnext := ih nextName nextValue f (fun member h => each member (List.mem_cons_of_mem _ h))
      (by omega)
    have hvalue := hback depth f _ (follows_comma (L.line depth
      ++ (writeKey L.ascii (.text nextName) ++ ':' :: (L.colon ++ (L.write depth nextValue
        ++ (L.writeMembers depth members ++ (L.line outer ++ '\x7d' :: rest))))))) (by omega)
    have hcolon := skipGap_write L L.isGap_colon hreadable depth
    have hskip (s : List Char) : skipGap (L.line depth ++ (writeKey L.ascii (.text nextName) ++ s))
        = writeKey L.ascii (.text nextName) ++ s :=
      skipGap_gap (L.isGap_line depth) rfl _
    simp only [Layout.writeMembers, List.cons_append, List.append_assoc, readMembers,
      readKey_writeKey, bind, Except.bind, skipGap_of_not (show isGap ':' = false from rfl), hcolon,
      hvalue, skipGap_of_not (show isGap ',' = false from rfl), hskip, hnext]
    rfl

/-- A value that holds no other reads back, if it does so as such. -/
theorem readsBack_of_readPlain (L : Layout) (room : Nat) {value : Json}
    (hwrite : ∀ depth, L.write depth value = writePlain L.ascii value)
    (hopen : ∃ c t, writePlain L.ascii value = c :: t ∧ c ≠ '[' ∧ c ≠ '\x7b')
    (hread : ∀ rest, Follows rest →
      readPlain (writePlain L.ascii value ++ rest) = .ok (value, rest)) :
    ReadsBack L room value := by
  intro depth fuel rest hrest hfuel
  obtain ⟨c, t, hcons, hbracket, hbrace⟩ := hopen
  have hvalue := hread rest hrest
  rw [hwrite, hcons, List.length_cons] at hfuel
  obtain ⟨f, rfl⟩ : ∃ f, fuel = f + 1 := ⟨fuel - 1, by omega⟩
  rw [hcons, List.cons_append] at hvalue
  rw [hwrite, hcons, List.cons_append, readValue_of_ne hbracket hbrace, hvalue]

/-- A list reads back, if its items do. -/
theorem readsBack_list (L : Layout) {room : Nat} {items : List Json}
    (each : ∀ item ∈ items, Readable room item ∧ ReadsBack L room item) :
    ReadsBack L (room + 1) (.list items) := by
  intro depth fuel rest _ hfuel
  cases items with
  | nil =>
    obtain ⟨f, rfl⟩ : ∃ f, fuel = f + 1 := ⟨fuel - 1, by simp [Layout.write] at hfuel; omega⟩
    rfl
  | cons item items =>
    simp only [Layout.write, List.length_cons, List.length_append] at hfuel
    obtain ⟨f, rfl⟩ : ∃ f, fuel = f + 1 := ⟨fuel - 1, by omega⟩
    have hitems := readItems_write L (depth + 1) depth rest items item f each (by omega)
    -- the first item does not close the list
    obtain ⟨c, t, hcons, hgap, hbracket, -⟩ := write_eq_cons L (each item (by simp)).1 (depth + 1)
    rw [hcons, List.cons_append] at hitems
    simp only [Layout.write, List.cons_append, List.append_assoc, List.nil_append, hcons]
    rw [readValue, skipGap_gap (L.isGap_line _) hgap]
    simp [hbracket, hitems, Except.map]

/-- An object reads back, if the values of its members do. -/
theorem readsBack_object (L : Layout) {room : Nat} {members : List (Key × Json)}
    (once : (members.map Prod.fst).Nodup)
    (each : ∀ member ∈ members, (∃ name, member.1 = .text name) ∧ Readable room member.2 ∧
      ReadsBack L room member.2) : ReadsBack L (room + 1) (.object members) := by
  intro depth fuel rest _ hfuel
  cases members with
  | nil =>
    obtain ⟨f, rfl⟩ : ∃ f, fuel = f + 1 := ⟨fuel - 1, by simp [Layout.write] at hfuel; omega⟩
    rfl
  | cons member members =>
    obtain ⟨key, value⟩ := member
    obtain ⟨⟨name, rfl : key = .text name⟩, -⟩ := each (key, value) (by simp)
    simp only [Layout.write, List.length_cons, List.length_append] at hfuel
    obtain ⟨f, rfl⟩ : ∃ f, fuel = f + 1 := ⟨fuel - 1, by omega⟩
    have hmembers := readMembers_write L (depth + 1) depth rest members name value f each (by omega)
    obtain ⟨t, hkey⟩ : ∃ t, writeKey L.ascii (.text name) = '\x22' :: t := ⟨_, rfl⟩
    rw [hkey, List.cons_append] at hmembers
    simp only [Layout.write, List.cons_append, List.append_assoc, List.nil_append, hkey]
    rw [readValue, skipGap_gap (L.isGap_line _) rfl]
    simp [hmembers, Except.map, Entries.merged_eq_self once]

/-- **A readable value reads back**, in any layout. -/
theorem readValue_write (L : Layout) {room : Nat} {value : Json} (h : Readable room value) :
    ReadsBack L room value := by
  induction h with
  | @null room =>
    exact readsBack_of_readPlain L room (fun _ => rfl) ⟨_, _, rfl, by decide, by decide⟩
      (fun _ _ => rfl)
  | @bool room b =>
    cases b <;> exact readsBack_of_readPlain L room (fun _ => rfl) ⟨_, _, rfl, by decide, by decide⟩
      (fun _ _ => rfl)
  | @text room s =>
    exact readsBack_of_readPlain L room (fun _ => rfl) ⟨_, _, rfl, by decide, by decide⟩
      (fun rest _ => readPlain_text L.ascii s rest)
  | @int room n short =>
    obtain ⟨c, t, hrender, -, -, -, hbracket, hbrace⟩ := render_eq_cons n
    exact readsBack_of_readPlain L room (fun _ => rfl) ⟨c, t, hrender, hbracket, hbrace⟩
      (fun _ hrest => readPlain_int L.ascii short hrest)
  | list each ih =>
    exact readsBack_list L fun item hitem => ⟨each item hitem, ih item hitem⟩
  | object once named each ih =>
    exact readsBack_object L once fun member hmember =>
      ⟨named member hmember, each member hmember, ih member hmember⟩

/-! ## 5. Whole texts -/

/-- The compact form of the items of a list is their form in the dense layout, if that of each is. -/
theorem compactItems_eq_write (depth : Nat) (items : List Json) : ∀ item : Json,
    (∀ value ∈ item :: items, compact value = Layout.dense.write depth value) →
      compactItems (item :: items)
        = Layout.dense.write depth item ++ Layout.dense.writeItems depth items := by
  induction items with
  | nil =>
    intro item each
    rw [compactItems, each item (by simp), Layout.writeItems, List.append_nil]
  | cons next items ih =>
    intro item each
    rw [compactItems, each item (by simp), ih next fun value h => each value (by simp [h])]
    · rfl
    · simp

theorem compactMembers_eq_write (depth : Nat) (members : List (Key × Json)) :
    ∀ (key : Key) (value : Json),
      (∀ member ∈ (key, value) :: members,
        compact member.2 = Layout.dense.write depth member.2) →
      compactMembers ((key, value) :: members) = writeKey false key ++ ':' ::
        (Layout.dense.write depth value ++ Layout.dense.writeMembers depth members) := by
  induction members with
  | nil =>
    intro key value each
    rw [compactMembers, each (key, value) (by simp), Layout.writeMembers, List.append_nil]
  | cons next members ih =>
    intro key value each
    rw [compactMembers, each (key, value) (by simp),
      ih next.1 next.2 fun member h => each member (List.mem_cons_of_mem _ h), Layout.writeMembers]
    · simp [Layout.dense]
    · simp

/-- The compact form is a layout. -/
theorem compact_eq_write {room : Nat} {value : Json} (h : Readable room value) :
    ∀ depth, compact value = Layout.dense.write depth value := by
  induction h with
  | null => exact fun _ => rfl
  | bool b => cases b <;> exact fun _ => rfl
  | int short => exact fun _ => rfl
  | text s => exact fun _ => rfl
  | @list room items each ih =>
    intro depth
    cases items with
    | nil => rfl
    | cons item items =>
      rw [compact, compactItems_eq_write (depth + 1) items item fun value h => ih value h _]
      simp [Layout.write, Layout.dense]
  | @object room members once named each ih =>
    intro depth
    cases members with
    | nil => rfl
    | cons member members =>
      rw [compact, compactMembers_eq_write (depth + 1) members member.1 member.2
        fun member h => ih member h _, Layout.write]
      simp [Layout.dense]

/-- **A value that is written in a layout is read as a whole text.** -/
theorem readWhole_write (L : Layout) {room : Nat} {value : Json} (h : Readable room value)
    (depth : Nat) : readWhole (L.write depth value) room = .ok value := by
  obtain ⟨c, t, hcons, hgap, -, hmark⟩ := write_eq_cons L h depth
  have hback := readValue_write L h depth (2 * (L.write depth value).length + 2) []
    (fun _ hc => absurd hc (by simp)) (by omega)
  have hskip : skipGap (c :: t) = c :: t := skipGap_of_not hgap t
  have hend : skipGap [] = [] := rfl
  rw [List.append_nil, hcons] at hback
  rw [hcons, readWhole]
  simp only [List.head?_cons, Option.some.injEq, hmark, if_false, hskip, hback, bind, Except.bind,
    pure, Except.pure, hend]

/-- **The compact form of a value reads back.** -/
theorem read_render {room : Nat} {value : Json} (h : Readable room value) :
    read (render value) room = .ok value := by
  rw [read, render, String.toList_ofList, compact_eq_write h 0, readWhole_write _ h]
  rfl

end Critique.Json
