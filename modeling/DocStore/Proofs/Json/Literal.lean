-- SUMMARY: The text of a number is one literal, and an integer of the exact range reads back from it.
import DocStore.Json.Basic
import DocStore.Proofs.Decimal

/-!
# The text of a number

Every number is written as one literal, which ends where the text of the number ends: what follows
in a document is a comma, a bracket, white space or nothing, and none of these goes on a literal.
Which number the literal denotes is another matter. For an integer of the exact range it is the
integer itself. For a double it depends on double arithmetic, so whether a double reads back is a
property of the double.
-/

namespace DocStore.Number

/-- The number that is read from the text of a number. -/
def reread? (n : Number) : Option Number :=
  (literal? (n.chars.map some)).bind fun found => found.1.toNumber?

/-- Whether the text of a number reads back as that number. -/
def ReadsBack (n : Number) : Prop :=
  n.reread? = some n

instance (n : Number) : Decidable n.ReadsBack :=
  inferInstanceAs (Decidable (n.reread? = some n))

-- Reading scales by a power of ten in double arithmetic, which is not exact.
example : (Number.float 1.5).ReadsBack ∧ ¬(Number.float 1e-50).ReadsBack := by decide +kernel

/-- Whether an integer is in the exact range; of a double this says nothing. -/
def InRange : Number → Prop
  | .int i => -(minIntMagnitude : Int) ≤ i ∧ i ≤ maxInt
  | .float _ => True

instance (n : Number) : Decidable n.InRange :=
  match n with
  | .int _ => inferInstanceAs (Decidable (_ ∧ _))
  | .float _ => inferInstanceAs (Decidable True)

/-! ## Scanning -/

/-- Whether a character can go on a literal. -/
def goesOn (c : Char) : Bool :=
  c.isDigit || c == '.' || c == 'e' || c == 'E'

/-- Whether a literal that stands before these symbols ends there. -/
def Ends (rest : List Symbol) : Prop :=
  ∀ c, rest.head? = some (some c) → goesOn c = false

theorem Ends.nil : Ends [] := by
  intro c h
  cases h

/-- A literal ends before a character that cannot go on it. -/
theorem Ends.cons {c : Char} (h : goesOn c = false) (rest : List Symbol) :
    Ends (some c :: rest) := by
  intro d hd
  cases hd
  exact h

/-- Digits are taken up to the first character that is none. -/
theorem spanDigits_append {ds : List Char} {rest : List Symbol}
    (digits : ∀ c ∈ ds, c.isDigit = true)
    (stop : ∀ c, rest.head? = some (some c) → c.isDigit = false) :
    spanDigits (ds.map some ++ rest) = (ds, rest) := by
  induction ds with
  | nil =>
    match rest with
    | [] => rfl
    | none :: rest => rfl
    | some c :: rest => simp [spanDigits, stop c rfl]
  | cons c ds ih =>
    have tail := ih fun d hd => digits d (List.mem_cons_of_mem c hd)
    simp [spanDigits, digits c List.mem_cons_self, tail]

theorem someDigits?_append {ds : List Char} {rest : List Symbol} (nonempty : ds ≠ [])
    (digits : ∀ c ∈ ds, c.isDigit = true)
    (stop : ∀ c, rest.head? = some (some c) → c.isDigit = false) :
    someDigits? (ds.map some ++ rest) = some (ds, rest) := by
  unfold someDigits?
  rw [spanDigits_append digits stop]
  cases ds with
  | nil => exact absurd rfl nonempty
  | cons c ds => rfl

/-- What is scanned as digits is digits, and they stand in front. -/
theorem spanDigits_ok (s : List Symbol) :
    (∀ c ∈ (spanDigits s).1, c.isDigit = true) ∧
      s = (spanDigits s).1.map some ++ (spanDigits s).2 := by
  fun_induction spanDigits s with
  | case1 c rest digit ih => exact ⟨List.forall_mem_cons.2 ⟨digit, ih.1⟩, congrArg _ ih.2⟩
  | case2 c rest notDigit => exact ⟨List.forall_mem_nil _, rfl⟩
  | case3 rest other => exact ⟨List.forall_mem_nil _, rfl⟩

/-- Whether some characters are digits, and at least one. -/
def IsDigits (ds : List Char) : Prop :=
  ds ≠ [] ∧ ∀ c ∈ ds, c.isDigit = true

/-- The digits that are taken stand in front, at least one of them. -/
theorem someDigits?_ok {s rest : List Symbol} {ds : List Char}
    (h : someDigits? s = some (ds, rest)) :
    IsDigits ds ∧ s = ds.map some ++ rest := by
  have scanned := spanDigits_ok s
  unfold someDigits? at h
  split at h
  · cases h
  · rename_i notEmpty
    rw [Option.some.inj h] at scanned notEmpty
    exact ⟨⟨fun empty => notEmpty rest (by rw [empty]), scanned.1⟩, scanned.2⟩

/-- Digits that may stand before the point: a zero alone, or digits that do not start with one. -/
inductive IsWhole : List Char → Prop where
  | zero : IsWhole ['0']
  | digits {c : Char} {cs : List Char} (first : c ≠ '0')
      (all : ∀ d ∈ c :: cs, d.isDigit = true) : IsWhole (c :: cs)

theorem IsWhole.isDigit {ds : List Char} (h : IsWhole ds) : ∀ c ∈ ds, c.isDigit = true := by
  cases h with
  | zero => exact List.forall_mem_singleton.2 rfl
  | digits _ all => exact all

/-- A whole part is taken up to the first character that is no digit. -/
theorem wholePart?_append {ds : List Char} {rest : List Symbol} (whole : IsWhole ds)
    (stop : ∀ c, rest.head? = some (some c) → c.isDigit = false) :
    wholePart? (ds.map some ++ rest) = some (ds, rest) := by
  unfold wholePart?
  rw [spanDigits_append whole.isDigit stop]
  cases whole with
  | zero => rfl
  | digits first _ => simp [first]

/-- A whole part that is taken is zero or does not begin with a zero. -/
theorem wholePart?_ok {s rest : List Symbol} {ds : List Char}
    (h : wholePart? s = some (ds, rest)) : IsWhole ds ∧ s = ds.map some ++ rest := by
  have scanned := spanDigits_ok s
  unfold wholePart? at h
  split at h
  · cases h
  · cases h
  · rename_i notEmpty noZero
    rw [Option.some.inj h] at scanned notEmpty noZero
    refine ⟨?_, scanned.2⟩
    match ds with
    | [] => exact absurd rfl (notEmpty rest)
    | [c] =>
      by_cases zero : c = '0'
      · exact zero ▸ .zero
      · exact .digits zero scanned.1
    | c :: d :: ds =>
      refine .digits ?_ scanned.1
      rintro rfl
      exact noZero d ds rest rfl

/-! ## Literals -/

namespace Literal

/-- The sign, if there is one. -/
def signChars (negative : Bool) : List Char :=
  if negative then ['-'] else []

/-- The digits after the point with the point, if there are any. -/
def pointChars : List Char → List Char
  | [] => []
  | ds => '.' :: ds

/-- The power of ten with its mark and its sign, if there is one. -/
def powerChars : Option Int → List Char
  | none => []
  | some p => 'e' :: (if p < 0 then '-' else '+') :: Nat.toDigits 10 p.natAbs

/-- A literal as it is written. -/
def chars (l : Literal) : List Char :=
  signChars l.negative ++ l.whole ++ pointChars l.fraction ++ powerChars l.power

/-- Whether a literal can be written. -/
structure WellFormed (l : Literal) : Prop where
  whole : IsWhole l.whole
  fraction : ∀ c ∈ l.fraction, c.isDigit = true

/-- The spellings of a power of ten: none, or a mark, a sign that may be absent, and digits. -/
inductive PowerSpelled : Option Int → List Char → Prop where
  | none : PowerSpelled none []
  | unsigned {mark : Char} {ds : List Char} (isMark : mark = 'e' ∨ mark = 'E')
      (digits : IsDigits ds) :
      PowerSpelled (some (Nat.ofDigitChars 10 ds 0)) (mark :: ds)
  | plus {mark : Char} {ds : List Char} (isMark : mark = 'e' ∨ mark = 'E')
      (digits : IsDigits ds) :
      PowerSpelled (some (Nat.ofDigitChars 10 ds 0)) (mark :: '+' :: ds)
  | minus {mark : Char} {ds : List Char} (isMark : mark = 'e' ∨ mark = 'E')
      (digits : IsDigits ds) :
      PowerSpelled (some (-(Nat.ofDigitChars 10 ds 0 : Int))) (mark :: '-' :: ds)

/-- The spellings of a literal, of which `chars` is the one that is written. -/
inductive Spelled : Literal → List Char → Prop where
  | mk {l : Literal} {power : List Char} (wf : l.WellFormed)
      (spelled : PowerSpelled l.power power) :
      Spelled l (signChars l.negative ++ l.whole ++ pointChars l.fraction ++ power)

/-- A power is spelled with a mark, a sign if it is negative, and its digits. -/
theorem powerSpelled_powerChars (power : Option Int) : PowerSpelled power (powerChars power) := by
  cases power with
  | none => exact .none
  | some p =>
    have digits : IsDigits (Nat.toDigits 10 p.natAbs) :=
      ⟨Nat.toDigits_ne_nil, fun c hc => Nat.isDigit_of_mem_toDigits (by decide) (by decide) hc⟩
    have value : Nat.ofDigitChars 10 (Nat.toDigits 10 p.natAbs) 0 = p.natAbs :=
      Nat.ofDigitChars_ten_toDigits
    by_cases sign : p < 0
    · have spelled := PowerSpelled.minus (.inl rfl) digits
      rw [value, show -(p.natAbs : Int) = p by omega] at spelled
      simpa [powerChars, sign] using spelled
    · have spelled := PowerSpelled.plus (.inl rfl) digits
      rw [value, show (p.natAbs : Int) = p by omega] at spelled
      simpa [powerChars, sign] using spelled

/-- A literal is written in one of its spellings. -/
theorem WellFormed.spelled {l : Literal} (wf : l.WellFormed) : l.Spelled l.chars :=
  .mk wf (powerSpelled_powerChars l.power)

/-- Digits behind a point are taken with it, up to the first character that is none. -/
theorem fractionPart?_append {ds : List Char} {rest : List Symbol}
    (digits : ∀ c ∈ ds, c.isDigit = true)
    (stop : ∀ c, rest.head? = some (some c) → c.isDigit = false ∧ c ≠ '.') :
    fractionPart? ((pointChars ds).map some ++ rest) = some (ds, rest) := by
  cases ds with
  | nil =>
    match rest with
    | [] => rfl
    | none :: rest => rfl
    | some c :: rest =>
      have point := (stop c rfl).2
      simp [pointChars, fractionPart?, point]
  | cons c ds =>
    have scanned := someDigits?_append (List.cons_ne_nil c ds) digits fun c hc => (stop c hc).1
    simpa [pointChars, fractionPart?] using scanned

theorem fractionPart?_ok {s rest : List Symbol} {ds : List Char}
    (h : fractionPart? s = some (ds, rest)) :
    (∀ c ∈ ds, c.isDigit = true) ∧ s = (pointChars ds).map some ++ rest := by
  unfold fractionPart? at h
  split at h
  · obtain ⟨⟨notEmpty, digits⟩, rfl⟩ := someDigits?_ok h
    cases ds with
    | nil => exact absurd rfl notEmpty
    | cons c ds => exact ⟨digits, rfl⟩
  · cases h
    exact ⟨List.forall_mem_nil _, rfl⟩

/-- A power without a sign has the value of its digits. -/
theorem power?_append {ds : List Char} (digits : IsDigits ds)
    {rest : List Symbol} (stop : ∀ c, rest.head? = some (some c) → c.isDigit = false) :
    power? (ds.map some ++ rest) = some ((Nat.ofDigitChars 10 ds 0 : Int), rest) := by
  have scanned := someDigits?_append digits.1 digits.2 stop
  -- The first digit is neither of the signs.
  cases ds with
  | nil => exact absurd rfl digits.1
  | cons c ds =>
    have digit := digits.2 c List.mem_cons_self
    rw [List.map_cons, List.cons_append] at scanned ⊢
    rw [power?.eq_def]
    split
    · rename_i same
      cases same
      cases digit
    · rename_i same
      cases same
      cases digit
    · rw [scanned]
      rfl

theorem powerPart?_mark {mark : Char} (isMark : mark = 'e' ∨ mark = 'E') (s : List Symbol) :
    powerPart? (some mark :: s) = (power? s).map fun (p, rest) => (some p, rest) := by
  rcases isMark with rfl | rfl <;> rfl

/-- A power that is spelled is taken, up to where the literal ends. -/
theorem powerPart?_append {power : Option Int} {text : List Char} (spelled : PowerSpelled power text)
    {rest : List Symbol} (ends : Ends rest) :
    powerPart? (text.map some ++ rest) = some (power, rest) := by
  have stop : ∀ c, rest.head? = some (some c) → c.isDigit = false := by
    intro c hc
    have stop := ends c hc
    simp only [goesOn, Bool.or_eq_false_iff] at stop
    exact stop.1.1.1
  cases spelled with
  | none =>
    match rest with
    | [] => rfl
    | none :: rest => rfl
    | some c :: rest =>
      have stop := ends c rfl
      simp only [goesOn, Bool.or_eq_false_iff, beq_eq_false_iff_ne] at stop
      simp [powerPart?, stop.1.2, stop.2]
  | unsigned isMark digits =>
    rw [List.map_cons, List.cons_append, powerPart?_mark isMark, power?_append digits stop]
    rfl
  | plus isMark digits =>
    simp only [List.map_cons, List.cons_append, powerPart?_mark isMark, power?,
      someDigits?_append digits.1 digits.2 stop, Option.map_some]
  | minus isMark digits =>
    simp only [List.map_cons, List.cons_append, powerPart?_mark isMark, power?,
      someDigits?_append digits.1 digits.2 stop, Option.map_some]

theorem powerSpelled_of_power? {s rest : List Symbol} {p : Int} {mark : Char}
    (isMark : mark = 'e' ∨ mark = 'E') (h : power? s = some (p, rest)) :
    ∃ text, PowerSpelled (some p) text ∧ some mark :: s = text.map some ++ rest := by
  unfold power? at h
  split at h
  · obtain ⟨⟨ds, _⟩, scanned, same⟩ := Option.map_eq_some_iff.1 h
    cases same
    obtain ⟨digits, rfl⟩ := someDigits?_ok scanned
    exact ⟨_, .plus isMark digits, rfl⟩
  · obtain ⟨⟨ds, _⟩, scanned, same⟩ := Option.map_eq_some_iff.1 h
    cases same
    obtain ⟨digits, rfl⟩ := someDigits?_ok scanned
    exact ⟨_, .minus isMark digits, rfl⟩
  · obtain ⟨⟨ds, _⟩, scanned, same⟩ := Option.map_eq_some_iff.1 h
    cases same
    obtain ⟨digits, rfl⟩ := someDigits?_ok scanned
    exact ⟨_, .unsigned isMark digits, rfl⟩

/-- A power that is taken is spelled in one of the ways that are allowed. -/
theorem powerPart?_ok {s rest : List Symbol} {power : Option Int}
    (h : powerPart? s = some (power, rest)) :
    ∃ text, PowerSpelled power text ∧ s = text.map some ++ rest := by
  unfold powerPart? at h
  split at h
  · obtain ⟨⟨p, _⟩, scanned, same⟩ := Option.map_eq_some_iff.1 h
    cases same
    exact powerSpelled_of_power? (.inl rfl) scanned
  · obtain ⟨⟨p, _⟩, scanned, same⟩ := Option.map_eq_some_iff.1 h
    cases same
    exact powerSpelled_of_power? (.inr rfl) scanned
  · cases h
    exact ⟨[], .none, rfl⟩

/-- A literal is scanned from each of its spellings. -/
theorem literal?_append {l : Literal} {text : List Char} (spelled : l.Spelled text)
    {rest : List Symbol} (ends : Ends rest) :
    literal? (text.map some ++ rest) = some (l, rest) := by
  obtain ⟨⟨hwhole, hfraction⟩, hpower⟩ := spelled
  rename_i powerText
  obtain ⟨negative, whole, fraction, power⟩ := l
  simp only at hwhole hfraction hpower
  -- What follows the fraction starts with the mark of a power or is what follows the literal.
  have afterFraction : ∀ c, (powerText.map some ++ rest).head? = some (some c) →
      c.isDigit = false ∧ c ≠ '.' := by
    intro c hc
    have marked {mark : Char} (isMark : mark = 'e' ∨ mark = 'E') (same : mark = c) :
        c.isDigit = false ∧ c ≠ '.' := by
      subst same
      rcases isMark with rfl | rfl <;> decide
    cases hpower with
    | none =>
      have stop := ends c (by simpa using hc)
      simp only [goesOn, Bool.or_eq_false_iff, beq_eq_false_iff_ne] at stop
      exact ⟨stop.1.1.1, stop.1.1.2⟩
    | unsigned isMark _ => exact marked isMark (by simpa using hc)
    | plus isMark _ => exact marked isMark (by simpa using hc)
    | minus isMark _ => exact marked isMark (by simpa using hc)
  have afterWhole : ∀ c,
      ((pointChars fraction).map some ++ (powerText.map some ++ rest)).head? = some (some c) →
        c.isDigit = false := by
    intro c hc
    cases fraction with
    | nil => exact (afterFraction c (by simpa [pointChars] using hc)).1
    | cons d ds =>
      obtain rfl : '.' = c := by simpa [pointChars] using hc
      decide
  have unsigned : unsigned? negative (whole.map some ++
      ((pointChars fraction).map some ++ (powerText.map some ++ rest))) =
        some (⟨negative, whole, fraction, power⟩, rest) := by
    simp [unsigned?, wholePart?_append hwhole afterWhole,
      fractionPart?_append hfraction afterFraction, powerPart?_append hpower ends]
  cases negative with
  | true => simpa [signChars, literal?] using unsigned
  | false =>
    have noSign : ∀ s, whole.map some ++ ((pointChars fraction).map some ++
        (powerText.map some ++ rest)) ≠ some '-' :: s := by
      intro s hs
      cases hwhole with
      | zero => simp at hs
      | @digits c _ _ all =>
        have digit := all c List.mem_cons_self
        obtain rfl : c = '-' := Option.some.inj (List.cons.inj hs).1
        exact absurd digit (by decide)
    simp only [signChars, Bool.false_eq_true, if_false, List.nil_append, List.map_append,
      List.append_assoc]
    rw [literal?, unsigned]
    exact noSign

/-- A literal that is taken is made of its whole part, its fraction and its power. -/
theorem unsigned?_ok {negative : Bool} {s rest : List Symbol} {l : Literal}
    (h : unsigned? negative s = some (l, rest)) :
    ∃ power, l.negative = negative ∧ l.WellFormed ∧ PowerSpelled l.power power ∧
      s = (l.whole ++ pointChars l.fraction ++ power).map some ++ rest := by
  simp only [unsigned?, Option.bind_eq_bind, Option.bind_eq_some_iff] at h
  obtain ⟨⟨whole, afterWhole⟩, whole?, ⟨fraction, afterFraction⟩, fraction?, ⟨power, _⟩, power?,
    same⟩ := h
  cases same
  obtain ⟨isWhole, rfl⟩ := wholePart?_ok whole?
  obtain ⟨digits, rfl⟩ := fractionPart?_ok fraction?
  obtain ⟨text, spelled, rfl⟩ := powerPart?_ok power?
  exact ⟨text, rfl, ⟨isWhole, digits⟩, spelled, by simp⟩

/-- What is scanned as a literal is one of its spellings. -/
theorem literal?_ok {s rest : List Symbol} {l : Literal} (h : literal? s = some (l, rest)) :
    ∃ text, l.Spelled text ∧ s = text.map some ++ rest := by
  unfold literal? at h
  split at h
  · obtain ⟨power, negative, wf, spelled, rfl⟩ := unsigned?_ok h
    exact ⟨_, .mk wf spelled, by simp [signChars, negative]⟩
  · obtain ⟨power, negative, wf, spelled, rfl⟩ := unsigned?_ok h
    exact ⟨_, .mk wf spelled, by simp [signChars, negative]⟩

end Literal

/-! ## The literal of a number -/

theorem isDigit_toDigits {n : Nat} {c : Char} (h : c ∈ Nat.toDigits 10 n) : c.isDigit = true :=
  Nat.isDigit_of_mem_toDigits (by decide) (by decide) h

/-- The digits of a number that is not zero do not start with a zero. -/
theorem head_toDigits_ne_zero {n : Nat} (h : n ≠ 0) :
    ∃ c cs, Nat.toDigits 10 n = c :: cs ∧ c ≠ '0' := by
  induction n using Nat.strongRecOn with
  | ind n ih =>
    by_cases small : n < 10
    · refine ⟨n.digitChar, [], Nat.toDigits_of_lt_base small, ?_⟩
      have all : ∀ m < 10, m ≠ 0 → Nat.digitChar m ≠ '0' := by decide
      exact all n small h
    · obtain ⟨c, cs, digits, first⟩ := ih (n / 10) (by omega) (by omega)
      rw [Nat.toDigits_of_base_le (by decide) (by omega), digits]
      exact ⟨c, _, rfl, first⟩

/-- The digits of a number are a whole part. -/
theorem isWhole_toDigits (n : Nat) : IsWhole (Nat.toDigits 10 n) := by
  by_cases h : n = 0
  · rw [h, Nat.toDigits_zero]
    exact .zero
  · obtain ⟨c, cs, digits, first⟩ := head_toDigits_ne_zero h
    rw [digits]
    exact .digits first fun d hd => isDigit_toDigits (n := n) (by rw [digits]; exact hd)

theorem isDigit_zeros {n : Nat} {c : Char} (h : c ∈ List.replicate n '0') : c.isDigit = true := by
  rw [List.eq_of_mem_replicate h]
  rfl

/-- Digits with a point in front, behind or between them are written as a literal. -/
theorem exists_plainLiteral (negative : Bool) {digits : List Char} {whole : Int}
    (hdigits : IsWhole digits) (hzero : digits = ['0'] → whole ≤ 1) :
    ∃ l : Literal, l.WellFormed ∧
      l.chars = Literal.signChars negative ++ plainChars digits whole := by
  unfold plainChars
  have nonempty : digits ≠ [] := by rintro rfl; cases hdigits
  split
  -- The point stands before the digits, among them or after them.
  · obtain ⟨d, ds, hds⟩ : ∃ d ds, List.replicate (-whole).toNat '0' ++ digits = d :: ds :=
      List.exists_cons_of_ne_nil (by simp [nonempty])
    refine ⟨⟨negative, ['0'], List.replicate (-whole).toNat '0' ++ digits, none⟩, ⟨.zero, ?_⟩, ?_⟩
    · intro c hc
      rcases List.mem_append.1 hc with hc | hc
      · exact isDigit_zeros hc
      · exact hdigits.isDigit c hc
    · simp [Literal.chars, hds, Literal.pointChars, Literal.powerChars]
  · rename_i positive
    split
    · rename_i inside
      obtain ⟨d, ds, hds⟩ : ∃ d ds, digits.drop whole.toNat = d :: ds :=
        List.exists_cons_of_ne_nil (by simpa using inside)
      refine ⟨⟨negative, digits.take whole.toNat, digits.drop whole.toNat, none⟩, ⟨?_, ?_⟩, ?_⟩
      · obtain ⟨n, hn⟩ : ∃ n, whole.toNat = n + 1 := ⟨whole.toNat - 1, by omega⟩
        cases hdigits with
        | zero =>
          rw [List.length_singleton] at inside
          omega
        | @digits c cs first all =>
          simp only [hn, List.take_succ_cons]
          exact .digits first fun d hd => all d (List.mem_cons.2
            ((List.mem_cons.1 hd).imp id List.mem_of_mem_take))
      · intro c hc
        exact hdigits.isDigit c (List.mem_of_mem_drop hc)
      · simp [Literal.chars, hds, Literal.pointChars, Literal.powerChars]
    · rename_i outside
      refine ⟨⟨negative, digits ++ List.replicate (whole.toNat - digits.length) '0', ['0'], none⟩,
        ⟨?_, fun c hc => isDigit_zeros (n := 1) hc⟩, ?_⟩
      · cases hdigits with
        | zero =>
          have := hzero rfl
          have none : whole.toNat - ['0'].length = 0 := by simp; omega
          rw [none]
          exact .zero
        | @digits c cs first all =>
          refine .digits first fun d hd => ?_
          rcases List.mem_append.1 (show d ∈ c :: cs ++ _ from hd) with hd | hd
          · exact all d hd
          · exact isDigit_zeros hd
      · simp [Literal.chars, Literal.pointChars, Literal.powerChars]

/-- A decimal is written as a literal, unless it is a zero with a power. -/
theorem exists_decimalLiteral (negative : Bool) {d : Decimal}
    (h : d = ⟨0, 0⟩ ∨ d.digits ≠ 0) :
    ∃ l : Literal, l.WellFormed ∧
      l.chars = Literal.signChars negative ++ decimalChars d := by
  have whole := isWhole_toDigits d.digits
  unfold decimalChars
  simp only
  split
  · refine exists_plainLiteral negative whole fun zero => ?_
    rcases h with rfl | nonzero
    · simp [Nat.toDigits_zero]
    · obtain ⟨c, cs, digits, first⟩ := head_toDigits_ne_zero nonzero
      rw [zero] at digits
      exact absurd (List.cons.inj digits).1.symm first
  · generalize hdigits : Nat.toDigits 10 d.digits = digits at whole
    generalize d.exponent + (digits.length : Int) - 1 = leading
    refine ⟨⟨negative, digits.take 1, digits.drop 1, some leading⟩, ⟨?_, ?_⟩, ?_⟩
    · cases whole with
      | zero => exact .zero
      | @digits c cs first all =>
        exact .digits first fun d hd => all d (by simp_all)
    · intro c hc
      exact whole.isDigit c (List.mem_of_mem_drop hc)
    · match digits with
      | [] => cases whole
      | [c] => simp [Literal.chars, Literal.pointChars, Literal.powerChars, scientificChars]
      | c :: c' :: cs =>
        simp [Literal.chars, Literal.pointChars, Literal.powerChars, scientificChars]

def intLiteral (i : Int) : Literal :=
  ⟨decide (i < 0), Nat.toDigits 10 i.natAbs, [], none⟩

theorem wellFormed_intLiteral (i : Int) : (intLiteral i).WellFormed :=
  ⟨isWhole_toDigits _, fun _ h => nomatch h⟩

theorem chars_intLiteral (i : Int) : (intLiteral i).chars = chars (.int i) := by
  by_cases sign : i < 0 <;>
    simp [intLiteral, Literal.chars, Literal.signChars, Literal.pointChars, Literal.powerChars,
      chars, intChars, sign]

/-- The literal of an integer in range is read as that integer. -/
theorem toInt?_intLiteral {i : Int} (range : InRange (.int i)) :
    (intLiteral i).toInt? = some i := by
  obtain ⟨lower, upper⟩ := range
  simp only [intLiteral, Literal.toInt?, Literal.isInteger, Nat.ofDigitChars_ten_toDigits]
  by_cases sign : i < 0
  · have small : ¬(i.natAbs = 0 ∨ minIntMagnitude < i.natAbs) := by omega
    have magnitude : -(i.natAbs : Int) = i := by omega
    simp only [sign, decide_true, List.isEmpty_nil, Option.isNone_none, Bool.and_self, Bool.not_true,
      Bool.false_eq_true, if_true, if_false, if_neg small, magnitude]
  · have small : ¬maxInt < i.natAbs := by omega
    have magnitude : (i.natAbs : Int) = i := by omega
    simp only [sign, decide_false, List.isEmpty_nil, Option.isNone_none, Bool.and_self, Bool.not_true,
      Bool.false_eq_true, if_false, if_neg small, magnitude]

/-- Every number is written as a literal. -/
theorem exists_literal (n : Number) : ∃ l : Literal, l.WellFormed ∧ l.chars = n.chars := by
  cases n with
  | int i => exact ⟨intLiteral i, wellFormed_intLiteral i, chars_intLiteral i⟩
  | float f =>
    obtain ⟨l, wf, hl⟩ := exists_decimalLiteral (isNegative f) (Binary.shortest_ofFloat f)
    refine ⟨l, wf, hl.trans ?_⟩
    cases sign : isNegative f <;> simp [Literal.signChars, chars, floatChars, sign]

/-- What is read from the text of a number is what its literal denotes. -/
theorem reread?_eq {n : Number} {l : Literal} (wf : l.WellFormed) (text : l.chars = n.chars) :
    n.reread? = l.toNumber? := by
  have alone := Literal.literal?_append wf.spelled Ends.nil
  rw [List.append_nil, text] at alone
  simp [reread?, alone]

/-- An integer of the exact range reads back. -/
theorem readsBack_int {i : Int} (range : InRange (.int i)) : ReadsBack (.int i) := by
  rw [ReadsBack, reread?_eq (wellFormed_intLiteral i) (chars_intLiteral i)]
  simp [Literal.toNumber?, toInt?_intLiteral range]

end DocStore.Number
