import MultiCluster.Quantity

/-! What there is to reading a quantity: all that a text must have so that it can be read. -/
namespace MultiCluster.Quantity

open Text

/-- What makes a text a quantity: a sign, digits around a point, and a suffix that stands for a
`power` of ten and one of two. -/
structure Reads (text : List Char) (q : Quantity) (whole fraction suffix : List Char)
    (power : Int) : Prop where
  sign : (splitSign (trimChars text)).1 = q.negative
  number : splitPoint ((splitSign (trimChars text)).2.takeWhile isNumberChar) = (whole, fraction)
  rest : (splitSign (trimChars text)).2.dropWhile isNumberChar = suffix
  someDigit : whole ≠ [] ∨ fraction ≠ []
  onePoint : '.' ∉ fraction
  mantissa : digitsValue (whole ++ fraction) = q.mantissa
  fits : q.mantissa < wordLimit
  factor : suffix? suffix = some (power, q.binary)
  places : isExponent fraction.length
  decimal : power - fraction.length = q.decimal
  inRange : isExponent q.decimal

/-- A text is read as the quantity that it is, and nothing else is read. -/
theorem ofChars?_eq_some_iff {text : List Char} {q : Quantity} : ofChars? text = some q ↔
    ∃ whole fraction suffix power, Reads text q whole fraction suffix power := by
  unfold ofChars?
  obtain ⟨negative, rest, hr⟩ : ∃ n r, splitSign (trimChars text) = (n, r) := ⟨_, _, rfl⟩
  obtain ⟨whole, fraction, hd⟩ : ∃ w f, splitPoint (rest.takeWhile isNumberChar) = (w, f) :=
    ⟨_, _, rfl⟩
  have hsome : ¬ (whole.isEmpty && fraction.isEmpty) ↔ whole ≠ [] ∨ fraction ≠ [] := by
    cases whole <;> simp
  have hpoint : ¬ fraction.contains '.' ↔ '.' ∉ fraction := by simp
  simp only [hr, hd, Option.bind_eq_bind, Option.bind_none]
  constructor
  · intro h
    split at h
    · cases h
    split at h
    · cases h
    split at h
    · cases h
    obtain ⟨⟨power, binary⟩, hs, h⟩ := Option.bind_eq_some_iff.1 h
    dsimp only at h
    split at h
    · cases h
    split at h
    · cases h
    obtain rfl := Option.some.inj h
    refine ⟨whole, fraction, rest.dropWhile isNumberChar, power, ?_⟩
    exact {
      sign := by rw [hr]
      number := by rw [hr]; exact hd
      rest := by rw [hr]
      someDigit := hsome.1 ‹_›
      onePoint := hpoint.1 ‹_›
      mantissa := rfl
      fits := Nat.not_le.1 ‹_›
      factor := hs
      places := by simpa using ‹¬ (!isExponent fraction.length) = true›
      decimal := rfl
      inRange := by simpa using ‹¬ (!isExponent (power - fraction.length)) = true› }
  · rintro ⟨whole', fraction', suffix, power, h⟩
    have hsign := h.sign
    have hnumber := h.number
    have hrest := h.rest
    rw [hr] at hsign hnumber hrest
    obtain rfl : negative = q.negative := hsign
    obtain ⟨rfl, rfl⟩ := Prod.mk.inj (hd.symm.trans hnumber)
    rw [h.mantissa, if_neg (hsome.2 h.someDigit), if_neg (hpoint.2 h.onePoint),
      if_neg (Nat.not_le.2 h.fits), hrest, h.factor]
    simp only [Option.bind_some, h.places, h.decimal, h.inRange, Bool.not_true,
      Bool.false_eq_true, if_false]
    rfl

/-- No suffix stands for more than two to the sixty. -/
theorem suffix?_binary {suffix : List Char} {power : Int} {binary : Nat}
    (h : suffix? suffix = some (power, binary)) : binary ≤ 60 := by
  have scientific {exponent : Option Int} (h : exponent.map (·, 0) = some (power, binary)) :
      binary ≤ 60 := by
    obtain ⟨_, -, hs⟩ := Option.map_eq_some_iff.1 h
    exact (Prod.mk.inj hs).2 ▸ Nat.zero_le 60
  unfold suffix? at h
  split at h
  all_goals first
    | exact scientific h
    | obtain ⟨-, rfl⟩ := Prod.mk.inj (Option.some.inj h)
      decide
    | cases h

end MultiCluster.Quantity
