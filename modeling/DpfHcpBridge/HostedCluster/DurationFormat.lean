import Mathlib.Data.List.Chain
import Mathlib.Data.Nat.Digits
import Mathlib.Data.String.Basic
import DpfHcpBridge.HostedCluster.Teardown

/-!
# Reading back the elapsed time of a timeout

When the teardown runs past `DeletionTimeout`, the `CleanupTimeout` condition's message ends with
the elapsed time, printed by `%v`, that is by Go's `Duration.String` (`durationString`). The
printer drops what it can: trailing zeros of the fraction, the point when no fraction is left,
zero hours, zero minutes below an hour, and it switches to `ms`, `µs` or `ns` below a second.
`parseDuration` reads a duration the way `time.ParseDuration` does: an optional sign, then one
or more components, each a number with an optional fraction and a unit among `h`, `m`, `s`,
`ms`, `µs`, `us` and `ns`.

`parseDuration_durationString`: for every duration, reading back what `durationString` printed
gives that duration, to the nanosecond, so the elapsed time a `CleanupTimeout` message names reads
back exactly.

The proof reads the printed text component by component: `fmtInt_eq` is the printer's equation
for an integer, from which `digitsValue_fmtInt` reads it back; `fmtFrac_digits` says what the
fraction printer leaves; and `readComponent_eq` reads one component off the front of a text.

Scope. Go's `ParseDuration` refuses a value past the range of `int64` and computes fractions in
floating point; `parseDuration` reads into an unbounded integer and divides exactly, so it
agrees with Go's reader on the texts `durationString` prints for an `int64`.
-/

set_option autoImplicit false
set_option relaxedAutoImplicit false

namespace DpfHcpBridge.HostedCluster

/-! ### The reader -/

/-- The value of a run of decimal digits. -/
def digitsValue (ds : List Char) : Nat :=
  ds.foldl (fun v c => 10 * v + (c.toNat - 48)) 0

/-- The units `time.ParseDuration` knows, in nanoseconds; a microsecond is `us`, the micro sign
or the Greek mu. -/
def unitNanos : List Char → Option Nat
  | ['n', 's'] => some 1
  | ['u', 's'] => some 1000
  | ['µ', 's'] => some 1000
  | ['μ', 's'] => some 1000
  | ['m', 's'] => some 1000000
  | ['s'] => some 1000000000
  | ['m'] => some 60000000000
  | ['h'] => some 3600000000000
  | _ => none

/-- Whether a character belongs to a unit: neither a digit nor the point. -/
def isUnitChar (c : Char) : Bool := c != '.' && !c.isDigit

/-- The fraction after an integer: the digits after a point, and what follows them. -/
def splitFraction : List Char → List Char × List Char
  | '.' :: rest => (rest.takeWhile Char.isDigit, rest.dropWhile Char.isDigit)
  | cs => ([], cs)

@[simp] theorem splitFraction_point (rest : List Char) :
    splitFraction ('.' :: rest) = (rest.takeWhile Char.isDigit, rest.dropWhile Char.isDigit) :=
  rfl

theorem splitFraction_of_ne {c : Char} (h : c ≠ '.') (cs : List Char) :
    splitFraction (c :: cs) = ([], c :: cs) := by
  simp [splitFraction, h]

/-- One component at the front of `cs`, `[digits][.digits]unit`: its value in nanoseconds and
what follows it. A fraction of `k` digits counts its value times the unit over `10 ^ k`. -/
def readComponent (cs : List Char) : Option (Nat × List Char) :=
  let int := cs.takeWhile Char.isDigit
  let (frac, afterFrac) := splitFraction (cs.dropWhile Char.isDigit)
  let unit := afterFrac.takeWhile isUnitChar
  let rest := afterFrac.dropWhile isUnitChar
  if int.isEmpty && frac.isEmpty then none
  else (unitNanos unit).map fun n =>
    (digitsValue int * n + digitsValue frac * n / 10 ^ frac.length, rest)

/-- The components of `cs`, summed; `fuel` bounds their number. -/
def readComponents : Nat → List Char → Option Nat
  | _, [] => some 0
  | 0, _ :: _ => none
  | fuel + 1, c :: cs => do
    let (v, rest) ← readComponent (c :: cs)
    let w ← readComponents fuel rest
    pure (v + w)

/-- The leading sign: whether it is a minus, and the text after it. -/
def splitSign : List Char → Bool × List Char
  | '-' :: cs => (true, cs)
  | '+' :: cs => (false, cs)
  | cs => (false, cs)

@[simp] theorem splitSign_minus (cs : List Char) : splitSign ('-' :: cs) = (true, cs) := rfl

theorem splitSign_digit {c : Char} (h : c.isDigit = true) (cs : List Char) :
    splitSign (c :: cs) = (false, c :: cs) := by
  have hminus : c ≠ '-' := by rintro rfl; exact absurd h (by decide)
  have hplus : c ≠ '+' := by rintro rfl; exact absurd h (by decide)
  simp [splitSign, hminus, hplus]

/-- `time.ParseDuration`, read into an integer number of nanoseconds. -/
def parseDuration (s : String) : Option Int :=
  let (neg, cs) := splitSign s.data
  if cs = ['0'] then some 0
  else if cs = [] then none
  else (readComponents cs.length cs).map fun d => if neg then -(d : Int) else d

/-! ### Integers -/

theorem toDigitsCore_append (f n : Nat) (ds : List Char) :
    Nat.toDigitsCore 10 f n ds = Nat.toDigitsCore 10 f n [] ++ ds := by
  induction f generalizing n ds with
  | zero => rfl
  | succ f ih =>
    simp only [Nat.toDigitsCore]
    split
    · rfl
    · rw [ih _ (_ :: ds), ih _ [_], List.append_assoc]
      rfl

/-- Any fuel past the number prints it the same. -/
theorem toDigitsCore_fuel {f g n : Nat} (hf : n < f) (hg : n < g) (ds : List Char) :
    Nat.toDigitsCore 10 f n ds = Nat.toDigitsCore 10 g n ds := by
  induction f generalizing g n ds with
  | zero => omega
  | succ f ih =>
    cases g with
    | zero => omega
    | succ g =>
      simp only [Nat.toDigitsCore]
      split
      · rfl
      · exact ih (by omega) (by omega) _

/-- The printer's equation: the digits of `n / 10`, then the last digit. -/
theorem fmtInt_eq (n : Nat) :
    fmtInt n = (if n < 10 then [] else fmtInt (n / 10)) ++ [Nat.digitChar (n % 10)] := by
  show Nat.toDigitsCore 10 (n + 1) n [] = _
  simp only [Nat.toDigitsCore]
  split
  · rw [if_pos (by omega)]
    rfl
  · rw [if_neg (by omega), toDigitsCore_append,
      toDigitsCore_fuel (g := n / 10 + 1) (by omega) (by omega)]
    rfl

theorem digitChar_digit {d : Nat} (h : d < 10) :
    (Nat.digitChar d).isDigit = true ∧ (Nat.digitChar d).toNat - 48 = d := by
  have key : ∀ d : Fin 10, (Nat.digitChar d).isDigit = true ∧ (Nat.digitChar d).toNat - 48 = d := by
    decide
  exact key ⟨d, h⟩

theorem ofNat_digit {d : Nat} (h : d < 10) :
    (Char.ofNat (48 + d)).isDigit = true ∧ (Char.ofNat (48 + d)).toNat - 48 = d := by
  have key : ∀ d : Fin 10,
      (Char.ofNat (48 + d)).isDigit = true ∧ (Char.ofNat (48 + d)).toNat - 48 = d := by
    decide
  exact key ⟨d, h⟩

theorem fmtInt_isDigit (n : Nat) : ∀ c ∈ fmtInt n, c.isDigit = true := by
  induction n using Nat.strongRecOn with
  | _ n ih =>
    rw [fmtInt_eq]
    refine List.forall_mem_append.mpr ⟨?_, List.forall_mem_singleton.mpr
      (digitChar_digit (Nat.mod_lt _ (by omega))).1⟩
    split
    · simp
    · exact ih _ (by omega)

theorem fmtInt_ne_nil (n : Nat) : fmtInt n ≠ [] := by
  rw [fmtInt_eq]
  simp

@[simp] theorem digitsValue_nil : digitsValue [] = 0 := rfl

theorem digitsValue_append_one (ds : List Char) (c : Char) :
    digitsValue (ds ++ [c]) = 10 * digitsValue ds + (c.toNat - 48) := by
  simp [digitsValue, List.foldl_append]

theorem digitsValue_fmtInt (n : Nat) : digitsValue (fmtInt n) = n := by
  induction n using Nat.strongRecOn with
  | _ n ih =>
    rw [fmtInt_eq, digitsValue_append_one, (digitChar_digit (Nat.mod_lt _ (by omega))).2]
    split
    · simp only [digitsValue_nil]
      omega
    · rw [ih _ (by omega)]
      omega

/-! ### Fractions -/

theorem fmtFracDigits_snd (p v : Nat) (print : Bool) (acc : List Char) :
    (fmtFracDigits p v print acc).2 = v / 10 ^ p := by
  induction p generalizing v print acc with
  | zero => simp [fmtFracDigits]
  | succ p ih => simp only [fmtFracDigits, ih, Nat.div_div_eq_div_mul, Nat.pow_succ']

theorem mod_pow_succ_ten (v p : Nat) : v % 10 ^ (p + 1) = v % 10 + 10 * (v / 10 % 10 ^ p) := by
  rw [Nat.pow_succ', Nat.mod_mul]

/-- Once a digit was printed, every lower digit is: `p` digits, the value of the last `p`. -/
theorem fmtFracDigits_printing (p v : Nat) (acc : List Char) :
    ∃ D, (fmtFracDigits p v true acc).1 = '.' :: (D ++ acc) ∧ (∀ c ∈ D, c.isDigit = true) ∧
      D.length = p ∧ digitsValue D = v % 10 ^ p := by
  induction p generalizing v acc with
  | zero => exact ⟨[], by simp [fmtFracDigits], by simp, rfl, by simp [Nat.mod_one]⟩
  | succ p ih =>
    obtain ⟨D, hout, hdig, hlen, hval⟩ := ih (v / 10) (Char.ofNat (48 + v % 10) :: acc)
    have hd := ofNat_digit (Nat.mod_lt v (by omega : 10 > 0))
    refine ⟨D ++ [Char.ofNat (48 + v % 10)], by simpa [fmtFracDigits] using hout,
      List.forall_mem_append.mpr ⟨hdig, List.forall_mem_singleton.mpr hd.1⟩, by simp [hlen], ?_⟩
    rw [digitsValue_append_one, hd.2, hval, mod_pow_succ_ten]
    omega

/-- What `fmtFrac` prints of the last `p` digits: nothing when they are zero, else the point and
digits whose value, shifted back by the trailing zeros dropped, is those digits' value. -/
theorem fmtFrac_digits (v p : Nat) :
    (fmtFrac v p).1 = [] ∧ v % 10 ^ p = 0 ∨
      ∃ D, (fmtFrac v p).1 = '.' :: D ∧ (∀ c ∈ D, c.isDigit = true) ∧ D.length ≤ p ∧
        digitsValue D * 10 ^ (p - D.length) = v % 10 ^ p := by
  unfold fmtFrac
  induction p generalizing v with
  | zero => exact .inl ⟨by simp [fmtFracDigits], Nat.mod_one _⟩
  | succ p ih =>
    by_cases h0 : v % 10 = 0
    · have hstep : fmtFracDigits (p + 1) v false [] = fmtFracDigits p (v / 10) false [] := by
        simp [fmtFracDigits, h0, bne]
      rw [hstep, mod_pow_succ_ten, h0]
      rcases ih (v / 10) with ⟨hnil, hz⟩ | ⟨D, hout, hdig, hlen, hval⟩
      · exact .inl ⟨hnil, by rw [hz]⟩
      · refine .inr ⟨D, hout, hdig, by omega, ?_⟩
        rw [show p + 1 - D.length = (p - D.length) + 1 by omega, Nat.pow_succ, ← Nat.mul_assoc,
          hval]
        omega
    · have hstep : fmtFracDigits (p + 1) v false [] =
          fmtFracDigits p (v / 10) true [Char.ofNat (48 + v % 10)] := by
        have hprint : (v % 10 != 0) = true := bne_iff_ne.mpr h0
        simp [fmtFracDigits, hprint]
      obtain ⟨D, hout, hdig, hlen, hval⟩ := fmtFracDigits_printing p (v / 10) [Char.ofNat (48 + v % 10)]
      have hd := ofNat_digit (Nat.mod_lt v (by omega : 10 > 0))
      refine .inr ⟨D ++ [Char.ofNat (48 + v % 10)], by rw [hstep, hout],
        List.forall_mem_append.mpr ⟨hdig, List.forall_mem_singleton.mpr hd.1⟩, by simp [hlen], ?_⟩
      rw [List.length_append, hlen, List.length_singleton, Nat.sub_self, Nat.pow_zero,
        Nat.mul_one, digitsValue_append_one, hd.2, hval, mod_pow_succ_ten]
      omega

/-! ### Reading one component -/

/-- A run `xs` of `p`, then text failing `p` at its head: the scan splits exactly there. -/
theorem span_append {p : Char → Bool} {xs : List Char} (ys : List Char)
    (hxs : ∀ c ∈ xs, p c = true) (hys : ∀ c ∈ ys.head?, p c = false) :
    (xs ++ ys).takeWhile p = xs ∧ (xs ++ ys).dropWhile p = ys := by
  rw [List.takeWhile_append_of_pos hxs, List.dropWhile_append_of_pos hxs]
  cases ys with
  | nil => simp
  | cons c ys =>
    have hc : ¬ p c = true := by simp [hys c rfl]
    simp [List.takeWhile_cons_of_neg hc, List.dropWhile_cons_of_neg hc]

theorem isDigit_of_isUnitChar {c : Char} (h : isUnitChar c = true) :
    c.isDigit = false ∧ c ≠ '.' := by
  simp only [isUnitChar, Bool.and_eq_true, bne_iff_ne, Bool.not_eq_true'] at h
  exact ⟨h.2, h.1⟩

/-- Reading `I ++ F ++ U ++ rest`: an integer `I`, a fraction `F` that is empty or a point and
digits `D`, a unit `U` worth `n`, and text `rest` that starts no unit. The component is worth
`I` units and the fraction `D / 10 ^ |D|` of one, and `rest` is left. -/
theorem readComponent_eq {I F D U rest : List Char} {n : Nat}
    (hI : ∀ c ∈ I, c.isDigit = true) (hI0 : I ≠ []) (hF : F = [] ∧ D = [] ∨ F = '.' :: D)
    (hD : ∀ c ∈ D, c.isDigit = true) (hU : ∀ c ∈ U, isUnitChar c = true)
    (hn : unitNanos U = some n) (hrest : ∀ c ∈ rest.head?, isUnitChar c = false) :
    readComponent (I ++ F ++ U ++ rest) =
      some (digitsValue I * n + digitsValue D * n / 10 ^ D.length, rest) := by
  obtain ⟨u, U', rfl⟩ : ∃ u U', U = u :: U' :=
    List.exists_cons_of_ne_nil (by rintro rfl; cases hn)
  have hu := isDigit_of_isUnitChar (hU u (List.mem_cons_self u U'))
  have hstop : ∀ c ∈ (u :: U' ++ rest).head?, c.isDigit = false := by simpa using hu.1
  -- the fraction stops at the unit, and the integer at the fraction or the unit
  have hfrac : splitFraction (F ++ (u :: U' ++ rest)) = (D, u :: U' ++ rest) := by
    rcases hF with ⟨rfl, rfl⟩ | rfl
    · exact splitFraction_of_ne hu.2 _
    · rw [List.cons_append, splitFraction_point, (span_append _ hD hstop).1,
        (span_append _ hD hstop).2]
  have hint := span_append (F ++ (u :: U' ++ rest)) hI (by
    rcases hF with ⟨rfl, -⟩ | rfl
    · exact hstop
    · simp)
  have hunit := span_append rest hU hrest
  have hIe : I.isEmpty = false := List.isEmpty_eq_false.mpr hI0
  simp only [readComponent, List.append_assoc, hint.1, hint.2, hfrac, hunit.1, hunit.2, hIe, hn,
    Bool.false_and, Bool.false_eq_true, if_false, Option.map_some']

/-- A component in the printer's form: the digits of `q`, then a unit and the rest. -/
theorem readComponent_fmtInt (q : Nat) {U rest : List Char} {n : Nat}
    (hU : ∀ c ∈ U, isUnitChar c = true) (hn : unitNanos U = some n)
    (hrest : ∀ c ∈ rest.head?, isUnitChar c = false) :
    readComponent (fmtInt q ++ U ++ rest) = some (q * n, rest) := by
  simpa [digitsValue_fmtInt] using readComponent_eq (F := []) (D := []) (fmtInt_isDigit q)
    (fmtInt_ne_nil q) (.inl ⟨rfl, rfl⟩) (by simp) hU hn hrest

/-- A component with the fraction `fmtFrac` printed for the last `p` digits of `v`, in a unit of
`10 ^ p`: it is worth `q` units and exactly those digits. -/
theorem readComponent_fmtFrac (q v p : Nat) {U rest : List Char}
    (hU : ∀ c ∈ U, isUnitChar c = true) (hn : unitNanos U = some (10 ^ p))
    (hrest : ∀ c ∈ rest.head?, isUnitChar c = false) :
    readComponent (fmtInt q ++ (fmtFrac v p).1 ++ U ++ rest) =
      some (q * 10 ^ p + v % 10 ^ p, rest) := by
  rcases fmtFrac_digits v p with ⟨hnil, hz⟩ | ⟨D, hout, hdig, hlen, hval⟩
  · rw [hnil, hz, List.append_nil, readComponent_fmtInt q hU hn hrest]
    rfl
  · have hfrac : digitsValue D * 10 ^ p / 10 ^ D.length = v % 10 ^ p :=
      calc digitsValue D * 10 ^ p / 10 ^ D.length
          = digitsValue D * 10 ^ (p - D.length) * 10 ^ D.length / 10 ^ D.length := by
            rw [Nat.mul_assoc, ← Nat.pow_add, Nat.sub_add_cancel hlen]
        _ = v % 10 ^ p := by rw [Nat.mul_div_cancel _ (Nat.pow_pos (by omega)), hval]
    rw [hout, readComponent_eq (fmtInt_isDigit q) (fmtInt_ne_nil q) (.inr rfl) hdig hU hn hrest,
      digitsValue_fmtInt, hfrac]

/-- Nothing follows: the end of the text starts no unit. -/
theorem nothing_follows : ∀ c ∈ ([] : List Char).head?, isUnitChar c = false := by
  simp

theorem fmtInt_append_head (q : Nat) (xs ys : List Char) :
    ∀ c ∈ (fmtInt q ++ xs ++ ys).head?, isUnitChar c = false := by
  obtain ⟨c, cs, h⟩ := List.exists_cons_of_ne_nil (fmtInt_ne_nil q)
  have hc := fmtInt_isDigit q c (by simp [h])
  simp [h, isUnitChar, hc]

/-! ### Reading all components -/

@[simp] theorem readComponents_nil (f : Nat) : readComponents f [] = some 0 := by
  cases f <;> rfl

theorem readComponents_step {f v w : Nat} {cs rest : List Char} (hcs : cs ≠ [])
    (hread : readComponent cs = some (v, rest)) (hrest : readComponents f rest = some w) :
    readComponents (f + 1) cs = some (v + w) := by
  obtain ⟨c, cs, rfl⟩ := List.exists_cons_of_ne_nil hcs
  simp [readComponents, hread, hrest]

/-- More fuel reads the same. -/
theorem readComponents_mono {f g w : Nat} {cs : List Char} (h : readComponents f cs = some w)
    (hfg : f ≤ g) : readComponents g cs = some w := by
  induction f generalizing g cs w with
  | zero =>
    cases cs with
    | nil => cases g <;> simpa [readComponents] using h
    | cons c cs => simp [readComponents] at h
  | succ f ih =>
    obtain ⟨g, rfl⟩ : ∃ g', g = g' + 1 := ⟨g - 1, by omega⟩
    cases cs with
    | nil => simpa [readComponents] using h
    | cons c cs =>
      simp only [readComponents, Option.bind_eq_bind, Option.bind_eq_some] at h
      obtain ⟨⟨v, rest⟩, hread, w', hrest, hsum⟩ := h
      rw [readComponents_step (List.cons_ne_nil c cs) hread (ih hrest (by omega))]
      exact hsum

/-- The last component: it is the whole reading. -/
theorem readComponents_last {cs : List Char} {v : Nat} (hread : readComponent cs = some (v, [])) :
    readComponents cs.length cs = some v := by
  cases cs with
  | nil => simp [readComponent, splitFraction] at hread
  | cons c cs =>
    simpa using readComponents_step (List.cons_ne_nil c cs) hread (readComponents_nil cs.length)

/-- A component followed by more: its value and the reading of the rest, with the fuel of the
text's length. -/
theorem readComponents_length {cs rest : List Char} {v w : Nat} (hlt : rest.length < cs.length)
    (hread : readComponent cs = some (v, rest))
    (hrest : readComponents rest.length rest = some w) :
    readComponents cs.length cs = some (v + w) := by
  obtain ⟨f, hf⟩ : ∃ f, cs.length = f + 1 := ⟨cs.length - 1, by omega⟩
  rw [hf]
  exact readComponents_step (List.ne_nil_of_length_pos (by omega)) hread
    (readComponents_mono hrest (by omega))

/-- A printed integer component, then a printed rest: their values add up. -/
theorem readComponents_fmtInt (q : Nat) {U rest : List Char} {n w : Nat}
    (hU : ∀ c ∈ U, isUnitChar c = true) (hU0 : U ≠ []) (hn : unitNanos U = some n)
    (hrest : readComponents rest.length rest = some w)
    (hhead : ∀ c ∈ rest.head?, isUnitChar c = false) :
    readComponents (fmtInt q ++ U ++ rest).length (fmtInt q ++ U ++ rest) = some (q * n + w) := by
  have hlt : rest.length < (fmtInt q ++ U ++ rest).length := by
    simp only [List.length_append]
    have := List.length_pos.mpr hU0
    omega
  exact readComponents_length hlt (readComponent_fmtInt q hU hn hhead) hrest

/-- The last component of a printed duration, with its fraction. -/
theorem readComponents_fmtFrac (q v p : Nat) {U : List Char}
    (hU : ∀ c ∈ U, isUnitChar c = true) (hn : unitNanos U = some (10 ^ p)) :
    readComponents (fmtInt q ++ (fmtFrac v p).1 ++ U).length (fmtInt q ++ (fmtFrac v p).1 ++ U) =
      some (q * 10 ^ p + v % 10 ^ p) := by
  have h := readComponent_fmtFrac q v p hU hn nothing_follows
  rw [List.append_nil] at h
  exact readComponents_last h

/-- What `durationString` prints for a natural number starts with digits and reads back as it.
One case per branch of the printer. -/
theorem durationString_body (u : Nat) :
    ∃ x ys, (durationString u).data = fmtInt x ++ ys ∧
      readComponents (durationString u).data.length (durationString u).data = some u := by
  have hnn : ¬ (u : Int) < 0 := by omega
  have hsnd : ∀ p, (fmtFrac u p).2 = u / 10 ^ p := fun p => fmtFracDigits_snd p u false []
  have hsec := readComponents_fmtFrac (u / 10 ^ 9 % 60) u 9 (U := ['s']) (by decide) (by decide)
  generalize hD : (durationString u).data = D
  simp only [durationString, Int.natAbs_ofNat, hnn, hsnd, if_false] at hD
  by_cases h0 : u = 0
  · -- zero
    rw [if_pos h0] at hD
    subst hD h0
    exact ⟨0, ['s'], by decide, by decide⟩
  rw [if_neg h0] at hD
  by_cases h1 : u < 1000
  · -- nanoseconds
    rw [if_pos h1] at hD
    subst hD
    refine ⟨u, ['n', 's'], rfl, ?_⟩
    simpa using readComponents_last
      (readComponent_fmtInt u (U := ['n', 's']) (by decide) rfl nothing_follows)
  rw [if_neg h1] at hD
  by_cases h2 : u < 1000000
  · -- microseconds
    rw [if_pos h2] at hD
    subst hD
    refine ⟨_, _, List.append_assoc _ _ _, ?_⟩
    rw [readComponents_fmtFrac _ u 3 (U := ['µ', 's']) (by decide) (by decide), Nat.mul_comm,
      Nat.div_add_mod]
  rw [if_neg h2] at hD
  by_cases h3 : u < 1000000000
  · -- milliseconds
    rw [if_pos h3] at hD
    subst hD
    refine ⟨_, _, List.append_assoc _ _ _, ?_⟩
    rw [readComponents_fmtFrac _ u 6 (U := ['m', 's']) (by decide) (by decide), Nat.mul_comm,
      Nat.div_add_mod]
  rw [if_neg h3] at hD
  simp only [Nat.reducePow] at hsec hD ⊢
  by_cases h4 : u / 1000000000 / 60 = 0
  · -- seconds
    rw [if_pos h4] at hD
    subst hD
    refine ⟨_, _, List.append_assoc _ _ _, ?_⟩
    rw [hsec]
    congr 1
    omega
  rw [if_neg h4] at hD
  by_cases h5 : u / 1000000000 / 3600 = 0
  · -- minutes and seconds
    rw [if_pos h5] at hD
    subst hD
    refine ⟨_, _, List.append_assoc _ _ _, ?_⟩
    rw [readComponents_fmtInt _ (U := ['m']) (by decide) (by decide) rfl hsec
      (fmtInt_append_head _ _ _)]
    congr 1
    omega
  · -- hours, minutes and seconds
    rw [if_neg h5] at hD
    subst hD
    refine ⟨_, _, List.append_assoc _ _ _, ?_⟩
    rw [readComponents_fmtInt _ (U := ['h']) (by decide) (by decide) rfl
      (readComponents_fmtInt _ (U := ['m']) (by decide) (by decide) rfl hsec
        (fmtInt_append_head _ _ _)) (fmtInt_append_head _ _ _)]
    congr 1
    omega

/-- A negative duration prints as a minus and its magnitude. -/
theorem durationString_data (d : Int) :
    (durationString d).data =
      if d < 0 then '-' :: (durationString d.natAbs).data else (durationString d.natAbs).data := by
  have hnn : ¬ (d.natAbs : Int) < 0 := by omega
  simp only [durationString, Int.natAbs_ofNat, hnn, if_false]

/-! ### The round trip -/

/-- Reading back what `durationString` prints gives the duration, to the nanosecond. -/
theorem parseDuration_durationString (d : Int) : parseDuration (durationString d) = some d := by
  obtain ⟨x, ys, hdata, hread⟩ := durationString_body d.natAbs
  obtain ⟨c, cs, hx⟩ := List.exists_cons_of_ne_nil (fmtInt_ne_nil x)
  have hc : c.isDigit = true := fmtInt_isDigit x c (by simp [hx])
  have hcons : (durationString d.natAbs).data = c :: (cs ++ ys) := by rw [hdata, hx, List.cons_append]
  have hzero : (durationString d.natAbs).data ≠ ['0'] := by
    intro h
    have hnone : readComponents ['0'].length ['0'] = none := by decide
    rw [h, hnone] at hread
    cases hread
  have hnil : (durationString d.natAbs).data ≠ [] := by
    rw [hcons]
    exact List.cons_ne_nil _ _
  unfold parseDuration
  rw [durationString_data]
  by_cases hneg : d < 0
  · simp only [hneg, if_true, splitSign_minus, hzero, hnil, if_false, hread]
    exact congrArg some (by omega : -(d.natAbs : Int) = d)
  · rw [if_neg hneg, hcons, splitSign_digit hc, ← hcons]
    simp only [hzero, hnil, if_false, hread]
    exact congrArg some (by omega : (d.natAbs : Int) = d)

example : parseDuration "1h30m1.5s" = some (90 * minute + 1500 * 1000000) := by decide
example : parseDuration "-2.25ms" = some (-2250000) := by decide

end DpfHcpBridge.HostedCluster
