import CheckpointRuntime.Library.TextPatterns
import Mathlib.Algebra.Order.Ring.Nat

/-!
# What the dashboard reads from the training logs

`train.py` prints its progress with `%`-formats, Docker and `logging` put their
prefixes before it, and `useLogParser.ts` reads it back with three regular
expressions.  Every line of these three kinds is read back as what was printed and
as nothing else, except that a figure that is not a finite number, or is negative,
makes its line go unread (`reads_line`).
-/

namespace CheckpointRuntime

open TextPatterns

/-! ## What is printed -/

/-- `%d` of a number that is not negative. -/
def decimal (n : Nat) : Text := Nat.toDigits 10 n

/-- A float as `%.kf` sees it: a finite one is rounded to `k` decimals, in units of the
last one. -/
inductive PyFloat
  | nan
  | infinite (negative : Bool)
  | finite (negative : Bool) (rounded : (k : Nat) → Nat)

/-- `%.kf`, with at least one decimal. -/
def PyFloat.fixed (k : Nat) : PyFloat → Text
  | .nan => "nan".toList
  | .infinite negative => (if negative then ['-'] else []) ++ "inf".toList
  | .finite negative rounded =>
      (if negative then ['-'] else []) ++
        (decimal (rounded k / 10 ^ k) ++ '.' :: (decimal (rounded k % 10 ^ k)).leftpad k '0')

/-- Hex digits, and what `train.py` prints for a checksum it was not given. -/
def isTokenChar (c : Char) : Bool :=
  c.isDigit || (decide ('a' ≤ c) && decide (c ≤ 'f')) || decide (c = '?')

/-- An id or a checksum. -/
structure Token where
  text : Text
  nonempty : text ≠ []
  chars : ∀ c ∈ text, isTokenChar c = true

/-- The messages of `train.py` that the dashboard knows: the progress of the loop, a
saved checkpoint and a restored one. -/
inductive TrainMessage
  | progress (step steps : Nat) (loss stepsPerSec : PyFloat)
  | saved (step : Nat) (loss : PyFloat) (size : Nat) (sha256 : Token) (elapsed : PyFloat)
  | restored (checkpointId : Token) (step size : Nat) (elapsed : PyFloat)

def TrainMessage.text : TrainMessage → Text
  | .progress step steps loss stepsPerSec =>
      "step=".toList ++ (decimal step ++ ("/".toList ++ (decimal steps ++ ("  loss=".toList ++
        (loss.fixed 4 ++ ("  steps/s=".toList ++ stepsPerSec.fixed 1))))))
  | .saved step loss size sha256 elapsed =>
      "Checkpoint saved (runtime): step=".toList ++ (decimal step ++ (" loss=".toList ++
        (loss.fixed 4 ++ (" size=".toList ++ (decimal size ++ (" bytes sha256=".toList ++
          (sha256.text ++ (" time=".toList ++ (elapsed.fixed 2 ++ "s".toList)))))))))
  | .restored checkpointId step size elapsed =>
      "Restored from runtime checkpoint: checkpoint_id=".toList ++ (checkpointId.text ++
        (" step=".toList ++ (decimal step ++ (" size=".toList ++ (decimal size ++
          (" bytes time=".toList ++ (elapsed.fixed 2 ++ "s".toList)))))))

/-- The characters of `2026-01-31T09:05:00.123456789Z` and `2026-01-31 09:05:00`. -/
def isTimeChar (c : Char) : Bool :=
  c.isDigit || decide (c ∈ "-:. TZ".toList)

/-- What stands before a message: the time that `docker logs --timestamps` adds, and
the time and the rank that the log format adds. -/
structure LogStamp where
  timestamp : Text
  asctime : Text
  rank : Nat
  timestamp_chars : ∀ c ∈ timestamp, isTimeChar c = true
  asctime_chars : ∀ c ∈ asctime, isTimeChar c = true

def LogStamp.text (stamp : LogStamp) : Text :=
  stamp.timestamp ++ (" ".toList ++ (stamp.asctime ++ (" [INFO] rank=".toList ++
    (decimal stamp.rank ++ " ".toList))))

/-- A line as it comes out of `docker logs`, without its line break. -/
def logLine (stamp : LogStamp) (message : TrainMessage) : Text := stamp.text ++ message.text

/-! ## What is read -/

/-- The numbers of the browser: the double nearest to `n / 10 ^ k`, and `NaN`. -/
structure Doubles where
  Number : Type
  decEq : DecidableEq Number
  nearest : (n k : Nat) → Number
  nan : Number

instance (js : Doubles) : DecidableEq js.Number := js.decEq

/-- `parseInt(s, 10)` of digits. -/
def parseInt (js : Doubles) (s : Text) : js.Number := js.nearest (Nat.ofDigitChars 10 s 0) 0

/-- `parseFloat(s)` of digits and points: the longest decimal literal at its start. -/
def parseFloat (js : Doubles) (s : Text) : js.Number :=
  let whole := s.takeWhile Char.isDigit
  let fraction :=
    match s.dropWhile Char.isDigit with
    | '.' :: rest => rest.takeWhile Char.isDigit
    | _ => []
  if whole ++ fraction = [] then js.nan
  else js.nearest (Nat.ofDigitChars 10 (whole ++ fraction) 0) fraction.length

/-- `\s`. -/
def isSpaceChar (c : Char) : Bool :=
  (9 ≤ c.toNat && c.toNat ≤ 13) || c.toNat ∈ [0x20, 0xa0, 0x1680, 0x2028, 0x2029, 0x202f, 0x205f,
    0x3000, 0xfeff] || (0x2000 ≤ c.toNat && c.toNat ≤ 0x200a)

/-- `(\d+)`. -/
def digitsGroup : Piece := .run 1 Char.isDigit true

/-- The class of `[\d.]`. -/
def isNumberChar (c : Char) : Bool := c.isDigit || c = '.'

/-- `([\d.]+)`. -/
def numberGroup : Piece := .run 1 isNumberChar true

/-- `(\S+)`. -/
def wordGroup : Piece := .run 1 (fun c => !isSpaceChar c) true

/-- `LOSS_RE`. -/
def lossRe : Pattern :=
  word "step=" ++ digitsGroup :: (word "/" ++ .run 1 Char.isDigit false ::
    .run 1 isSpaceChar false :: (word "loss=" ++ numberGroup :: .run 1 isSpaceChar false ::
      (word "steps/s=" ++ [numberGroup])))

/-- `CKPT_RE`. -/
def ckptRe : Pattern :=
  word "Checkpoint saved (runtime): step=" ++ digitsGroup :: (word " loss=" ++ numberGroup ::
    (word " size=" ++ digitsGroup :: (word " bytes sha256=" ++ wordGroup ::
      (word " time=" ++ numberGroup :: word "s"))))

/-- `RESTORE_RE`. -/
def restoreRe : Pattern :=
  word "Restored from runtime checkpoint: checkpoint_id=" ++ wordGroup :: (word " step=" ++
    digitsGroup :: (word " size=" ++ digitsGroup :: (word " bytes time=" ++ numberGroup ::
      word "s")))

structure LossPoint (js : Doubles) where
  step : js.Number
  loss : js.Number
  stepsPerSec : js.Number
deriving DecidableEq

structure CheckpointMarker (js : Doubles) where
  step : js.Number
  loss : js.Number
  sizeBytes : js.Number
  sha256 : Text
  saveTime : js.Number
deriving DecidableEq

structure RecoveryMarker (js : Doubles) where
  checkpointId : Text
  step : js.Number
  sizeBytes : js.Number
  restoreTime : js.Number
deriving DecidableEq

section
variable (js : Doubles)

/-- The loss point that a line makes. -/
def readLoss (line : Text) : Option (LossPoint js) :=
  match exec lossRe line with
  | some [step, loss, stepsPerSec] =>
      some ⟨parseInt js step, parseFloat js loss, parseFloat js stepsPerSec⟩
  | _ => none

/-- The checkpoint marker that a line makes. -/
def readCheckpoint (line : Text) : Option (CheckpointMarker js) :=
  match exec ckptRe line with
  | some [step, loss, sizeBytes, sha256, saveTime] =>
      some ⟨parseInt js step, parseFloat js loss, parseInt js sizeBytes, sha256,
        parseFloat js saveTime⟩
  | _ => none

/-- The recovery marker that a line makes. -/
def readRecovery (line : Text) : Option (RecoveryMarker js) :=
  match exec restoreRe line with
  | some [checkpointId, step, sizeBytes, restoreTime] =>
      some ⟨checkpointId, parseInt js step, parseInt js sizeBytes, parseFloat js restoreTime⟩
  | _ => none

/-! ## What should be read -/

/-- The number that a printed float is read as; only digits and a point are. -/
def PyFloat.shown (k : Nat) : PyFloat → Option js.Number
  | .finite false rounded => some (js.nearest (rounded k) k)
  | .finite true _ | .infinite _ | .nan => none

/-- The loss point that a message is to make. -/
def TrainMessage.loss? : TrainMessage → Option (LossPoint js)
  | .progress step _ loss stepsPerSec => do
      let loss ← loss.shown js 4
      let stepsPerSec ← stepsPerSec.shown js 1
      return ⟨js.nearest step 0, loss, stepsPerSec⟩
  | .saved _ _ _ _ _ | .restored _ _ _ _ => none

/-- The checkpoint marker that a message is to make. -/
def TrainMessage.checkpoint? : TrainMessage → Option (CheckpointMarker js)
  | .saved step loss size sha256 elapsed => do
      let loss ← loss.shown js 4
      let elapsed ← elapsed.shown js 2
      return ⟨js.nearest step 0, loss, js.nearest size 0, sha256.text, elapsed⟩
  | .progress _ _ _ _ | .restored _ _ _ _ => none

/-- The recovery marker that a message is to make. -/
def TrainMessage.recovery? : TrainMessage → Option (RecoveryMarker js)
  | .restored checkpointId step size elapsed =>
      (elapsed.shown js 2).map fun elapsed =>
        ⟨checkpointId.text, js.nearest step 0, js.nearest size 0, elapsed⟩
  | .progress _ _ _ _ | .saved _ _ _ _ _ => none

end

/-! ## Numbers -/

theorem isDigit_of_mem_decimal {n : Nat} {c : Char} (h : c ∈ decimal n) : c.isDigit = true :=
  Nat.isDigit_of_mem_toDigits (by decide) (by decide) h

theorem decimal_ne_nil (n : Nat) : decimal n ≠ [] := Nat.toDigits_ne_nil

theorem one_le_length {s : Text} (h : s ≠ []) : 1 ≤ s.length := List.length_pos_iff.mpr h

/-- A number is read back as it was printed. -/
theorem parseInt_decimal (js : Doubles) (n : Nat) : parseInt js (decimal n) = js.nearest n 0 := by
  rw [parseInt, decimal, Nat.ofDigitChars_ten_toDigits]

/-- The decimals of a float: `k` digits with the value of the fraction. -/
theorem fraction_spec {k n : Nat} (hk : 0 < k) (hn : n < 10 ^ k) :
    let fraction := (decimal n).leftpad k '0'
    fraction.length = k ∧ (∀ c ∈ fraction, c.isDigit = true) ∧
      Nat.ofDigitChars 10 fraction 0 = n := by
  have hlength : (decimal n).length ≤ k := (Nat.length_toDigits_le_iff (by decide) hk).mpr hn
  refine ⟨?_, ?_, ?_⟩
  · rw [List.length_leftpad, Nat.max_eq_left hlength]
  · intro c hc
    rcases List.mem_append.mp hc with hzero | hdigit
    · rw [List.eq_of_mem_replicate hzero]
      rfl
    · exact isDigit_of_mem_decimal hdigit
  · rw [List.leftpad, Nat.ofDigitChars_append, Nat.ofDigitChars_replicate_zero, Nat.mul_zero]
    exact Nat.ofDigitChars_ten_toDigits

/-- Whether a float is printed as a plain decimal. -/
def PyFloat.isPlain : PyFloat → Bool
  | .finite false _ => true
  | .finite true _ | .infinite _ | .nan => false

/-- **A plain float is read back as it was printed.** -/
theorem parseFloat_fixed (js : Doubles) {k : Nat} (hk : 0 < k) (rounded : Nat → Nat) :
    parseFloat js ((PyFloat.finite false rounded).fixed k) = js.nearest (rounded k) k := by
  have hwhole : ∀ c ∈ decimal (rounded k / 10 ^ k), c.isDigit = true :=
    fun c hc => isDigit_of_mem_decimal hc
  obtain ⟨hlength, hdigits, hvalue⟩ :=
    fraction_spec hk (Nat.mod_lt (rounded k) (Nat.pow_pos (by decide)))
  have htake : (decimal (rounded k / 10 ^ k) ++
      '.' :: (decimal (rounded k % 10 ^ k)).leftpad k '0').takeWhile Char.isDigit =
        decimal (rounded k / 10 ^ k) := by
    rw [List.takeWhile_append_of_pos hwhole, List.takeWhile_cons_of_neg (by decide),
      List.append_nil]
  have hdrop : (decimal (rounded k / 10 ^ k) ++
      '.' :: (decimal (rounded k % 10 ^ k)).leftpad k '0').dropWhile Char.isDigit =
        '.' :: (decimal (rounded k % 10 ^ k)).leftpad k '0' := by
    rw [List.dropWhile_append_of_pos hwhole, List.dropWhile_cons_of_neg (by decide)]
  have hall : ((decimal (rounded k % 10 ^ k)).leftpad k '0').takeWhile Char.isDigit =
      (decimal (rounded k % 10 ^ k)).leftpad k '0' := List.takeWhile_eq_self_iff.mpr hdigits
  have hnumber : Nat.ofDigitChars 10 (decimal (rounded k / 10 ^ k) ++
      (decimal (rounded k % 10 ^ k)).leftpad k '0') 0 = rounded k := by
    rw [Nat.ofDigitChars_append, Nat.ofDigitChars_eq_ofDigitChars_zero, hvalue, hlength, decimal,
      Nat.ofDigitChars_ten_toDigits]
    exact Nat.div_add_mod (rounded k) (10 ^ k)
  show parseFloat js (decimal (rounded k / 10 ^ k) ++ _) = _
  unfold parseFloat
  simp only [htake, hdrop, hall, hnumber, hlength]
  exact if_neg fun hnil => decimal_ne_nil _ (List.append_eq_nil_iff.mp hnil).1

theorem shown_eq (js : Doubles) {k : Nat} (hk : 0 < k) (x : PyFloat) :
    x.shown js k = if x.isPlain then some (parseFloat js (x.fixed k)) else none := by
  cases x with
  | nan => rfl
  | infinite negative => rfl
  | finite negative rounded =>
      cases negative with
      | true => rfl
      | false =>
          rw [parseFloat_fixed js hk]
          rfl

/-- A plain float consists of digits and a point. -/
theorem isNumberChar_of_mem_fixed {k : Nat} {rounded : Nat → Nat} {c : Char}
    (h : c ∈ (PyFloat.finite false rounded).fixed k) : isNumberChar c = true := by
  rw [isNumberChar, Bool.or_eq_true]
  rcases List.mem_append.mp (show c ∈ decimal _ ++ '.' :: _ from h) with hwhole | hfraction
  · exact Or.inl (isDigit_of_mem_decimal hwhole)
  · rcases List.mem_cons.mp hfraction with rfl | hfraction
    · exact Or.inr (by decide)
    · rcases List.mem_append.mp hfraction with hzero | hdigit
      · left
        rw [List.eq_of_mem_replicate hzero]
        rfl
      · exact Or.inl (isDigit_of_mem_decimal hdigit)

/-- The characters of a printed float. -/
theorem mem_fixed {k : Nat} {x : PyFloat} {c : Char} (h : c ∈ x.fixed k) :
    isNumberChar c = true ∨ c ∈ "-naif".toList := by
  cases x with
  | nan =>
      have hall : "nan".toList ⊆ "-naif".toList := by decide
      exact Or.inr (hall h)
  | infinite negative =>
      have hall : ∀ negative : Bool,
          (if negative then ['-'] else []) ++ "inf".toList ⊆ "-naif".toList := by decide
      exact Or.inr (hall negative h)
  | finite negative rounded =>
      rcases List.mem_append.mp h with hsign | hnumber
      · right
        cases negative with
        | true =>
            obtain rfl := List.mem_singleton.mp hsign
            decide
        | false => cases hsign
      · exact Or.inl (isNumberChar_of_mem_fixed hnumber)

theorem fixed_ne_nil (k : Nat) (x : PyFloat) : x.fixed k ≠ [] := by
  cases x with
  | nan => exact fun h => (by cases h)
  | infinite negative => cases negative <;> exact fun h => (by cases h)
  | finite negative rounded =>
      intro h
      exact decimal_ne_nil _ (List.append_eq_nil_iff.mp (List.append_eq_nil_iff.mp h).2).1

/-- Any other float begins with a letter or a sign. -/
theorem takeWhile_fixed {k : Nat} {x : PyFloat} (hplain : x.isPlain = false) (tail : Text) :
    (x.fixed k ++ tail).takeWhile isNumberChar = [] := by
  cases x with
  | nan => rfl
  | infinite negative => cases negative <;> rfl
  | finite negative rounded =>
      cases negative with
      | true => rfl
      | false => cases hplain

/-! ## Matching a message -/

/-- White space lies below or above the characters that are printed. -/
theorem not_space_of_mid {c : Char} (hlow : 33 ≤ c.toNat) (hhigh : c.toNat ≤ 126) :
    isSpaceChar c = false := by
  simp only [isSpaceChar, List.mem_cons, List.not_mem_nil, or_false, Bool.or_eq_false_iff,
    Bool.and_eq_false_iff, decide_eq_false_iff_not]
  omega

theorem not_space_of_isDigit {c : Char} (h : c.isDigit = true) : isSpaceChar c = false := by
  simp only [Char.isDigit, Bool.and_eq_true, decide_eq_true_eq, ge_iff_le,
    UInt32.le_iff_toNat_le] at h
  have hlow : 48 ≤ c.toNat := h.1
  have hhigh : c.toNat ≤ 57 := h.2
  exact not_space_of_mid (by omega) (by omega)

theorem not_space_of_isNumberChar {c : Char} (h : isNumberChar c = true) :
    isSpaceChar c = false := by
  rw [isNumberChar, Bool.or_eq_true, decide_eq_true_eq] at h
  rcases h with hdigit | rfl
  · exact not_space_of_isDigit hdigit
  · decide

theorem not_space_of_isTokenChar {c : Char} (h : isTokenChar c = true) :
    isSpaceChar c = false := by
  simp only [isTokenChar, Bool.or_eq_true, Bool.and_eq_true, decide_eq_true_eq] at h
  rcases h with (hdigit | ⟨hlow, hhigh⟩) | rfl
  · exact not_space_of_isDigit hdigit
  · have hlow' : 97 ≤ c.toNat := hlow
    have hhigh' : c.toNat ≤ 102 := hhigh
    exact not_space_of_mid (by omega) (by omega)
  · decide

theorem eq_finite_of_isPlain {x : PyFloat} (h : x.isPlain = true) :
    ∃ rounded, x = .finite false rounded := by
  cases x with
  | nan => cases h
  | infinite negative => cases h
  | finite negative rounded =>
      cases negative with
      | true => cases h
      | false => exact ⟨rounded, rfl⟩

section
variable {ps : Pattern} {tail : Text} {c : Char}

theorem ne_of_isDigit {d : Char} (hd : d.isDigit = false) (hc : c.isDigit = true) : c ≠ d := by
  intro hsame
  rw [hsame, hd] at hc
  cases hc

/-- A number and a literal behind it. -/
theorem matchHere_decimal {d : Char} (captured : Bool) (n : Nat) (hd : d.isDigit = false) :
    matchHere (.run 1 Char.isDigit captured :: .literal d :: ps) (decimal n ++ d :: tail) =
      (matchHere ps tail).map fun groups => if captured then decimal n :: groups else groups := by
  rw [matchHere_run (fun c hc => isDigit_of_mem_decimal hc) (one_le_length (decimal_ne_nil n)),
    matchHere_literal, if_pos rfl]
  · intro c hc
    obtain rfl := Option.some.inj hc
    exact hd
  · exact fun c s hc => matchHere_of_ne (ne_of_isDigit hd hc)

/-- A number and white space behind it. -/
theorem matchHere_decimal_space (captured : Bool) (n : Nat)
    (htail : ∀ c ∈ tail.head?, c.isDigit = false) :
    matchHere (.run 1 Char.isDigit captured :: .run 1 isSpaceChar false :: ps)
        (decimal n ++ tail) =
      (matchHere (.run 1 isSpaceChar false :: ps) tail).map fun groups =>
        if captured then decimal n :: groups else groups :=
  matchHere_run (fun _ hc => isDigit_of_mem_decimal hc) (one_le_length (decimal_ne_nil n)) htail
    fun _ _ hc => matchHere_run_of_not (not_space_of_isDigit hc)

/-- Two blanks and a literal behind them. -/
theorem matchHere_blanks {d : Char} (hd : isSpaceChar d = false) :
    matchHere (.run 1 isSpaceChar false :: .literal d :: ps) (' ' :: ' ' :: d :: tail) =
      matchHere ps tail := by
  show matchHere _ ([' ', ' '] ++ d :: tail) = _
  rw [matchHere_run, matchHere_literal, if_pos rfl]
  · exact Option.map_id' (x := matchHere ps tail)
  · exact List.all_eq_true.mp (by decide)
  · decide
  · intro c hc
    obtain rfl := Option.some.inj hc
    exact hd
  · intro c s hc
    apply matchHere_of_ne
    intro hsame
    rw [hsame, hd] at hc
    cases hc

/-- A float that is not plain is no number to the dashboard; another one is taken as a
whole. -/
theorem matchHere_fixed {k : Nat} (x : PyFloat)
    (htail : ∀ c ∈ tail.head?, isNumberChar c = false)
    (hrest : ∀ c s, isNumberChar c = true → matchHere ps (c :: s) = none) :
    matchHere (numberGroup :: ps) (x.fixed k ++ tail) =
      if x.isPlain then (matchHere ps tail).map fun groups => x.fixed k :: groups else none := by
  cases hplain : x.isPlain with
  | false =>
      apply matchHere_run_short
      rw [takeWhile_fixed hplain]
      decide
  | true =>
      obtain ⟨rounded, rfl⟩ := eq_finite_of_isPlain hplain
      exact matchHere_run (fun c hc => isNumberChar_of_mem_fixed hc)
        (one_le_length (fixed_ne_nil k _)) htail hrest

/-- A float at the end. -/
theorem matchHere_last_fixed {k : Nat} (x : PyFloat) :
    matchHere [numberGroup] (x.fixed k) = if x.isPlain then some [x.fixed k] else none := by
  rw [← List.append_nil (x.fixed k)]
  cases hplain : x.isPlain with
  | false =>
      apply matchHere_run_short
      rw [takeWhile_fixed hplain]
      decide
  | true =>
      obtain ⟨rounded, rfl⟩ := eq_finite_of_isPlain hplain
      rw [numberGroup, matchHere_last_run (fun c hc => isNumberChar_of_mem_fixed hc)
        (one_le_length (fixed_ne_nil k _)) (fun c hc => by cases hc), List.append_nil]
      rfl

/-- A float and a literal behind it. -/
theorem matchHere_fixed_literal {d : Char} {k : Nat} (x : PyFloat) (hd : isNumberChar d = false) :
    matchHere (numberGroup :: .literal d :: ps) (x.fixed k ++ d :: tail) =
      if x.isPlain then (matchHere ps tail).map fun groups => x.fixed k :: groups else none := by
  rw [matchHere_fixed x, matchHere_literal, if_pos rfl]
  · intro c hc
    obtain rfl := Option.some.inj hc
    exact hd
  · intro c s hc
    apply matchHere_of_ne
    intro hsame
    rw [hsame, hd] at hc
    cases hc

/-- A token and a blank behind it. -/
theorem matchHere_token (token : Token) :
    matchHere (wordGroup :: .literal ' ' :: ps) (token.text ++ ' ' :: tail) =
      (matchHere ps tail).map fun groups => token.text :: groups := by
  rw [wordGroup, matchHere_run, matchHere_literal, if_pos rfl]
  · rfl
  · intro c hc
    rw [not_space_of_isTokenChar (token.chars c hc)]
    rfl
  · exact one_le_length token.nonempty
  · intro c hc
    obtain rfl := Option.some.inj hc
    decide
  · intro c s hc
    apply matchHere_of_ne
    intro hsame
    rw [hsame] at hc
    exact absurd hc (by decide)

end

/-! ## Whole messages -/

/-- `LOSS_RE` at a progress message. -/
theorem matchHere_progress (step steps : Nat) (loss stepsPerSec : PyFloat) :
    matchHere lossRe (TrainMessage.progress step steps loss stepsPerSec).text =
      if loss.isPlain && stepsPerSec.isPlain then
        some [decimal step, loss.fixed 4, stepsPerSec.fixed 1]
      else none := by
  show matchHere (word "step=" ++ _) ("step=".toList ++ _) = _
  rw [matchHere_word]
  show matchHere (digitsGroup :: .literal '/' :: (.run 1 Char.isDigit false :: _))
    (decimal step ++ '/' :: (decimal steps ++ _)) = _
  rw [digitsGroup, matchHere_decimal true step (by decide), matchHere_decimal_space]
  · show Option.map _ (Option.map _ (matchHere (_ :: .literal 'l' :: (word "oss=" ++ _))
      (' ' :: ' ' :: 'l' :: ("oss=".toList ++ _)))) = _
    rw [matchHere_blanks (by decide), matchHere_word, matchHere_fixed]
    · show Option.map _ (Option.map _ (if _ then Option.map _ (matchHere
        (_ :: .literal 's' :: (word "teps/s=" ++ _))
        (' ' :: ' ' :: 's' :: ("teps/s=".toList ++ _))) else _)) = _
      rw [matchHere_blanks (by decide), matchHere_word, matchHere_last_fixed]
      cases loss.isPlain <;> cases stepsPerSec.isPlain <;> rfl
    · intro c hc
      obtain rfl := Option.some.inj hc
      decide
    · exact fun c s hc => matchHere_run_of_not (not_space_of_isNumberChar hc)
  · intro c hc
    obtain rfl := Option.some.inj hc
    decide

/-- `CKPT_RE` at a message about a saved checkpoint. -/
theorem matchHere_saved (step : Nat) (loss : PyFloat) (size : Nat) (sha256 : Token)
    (elapsed : PyFloat) :
    matchHere ckptRe (TrainMessage.saved step loss size sha256 elapsed).text =
      if loss.isPlain && elapsed.isPlain then
        some [decimal step, loss.fixed 4, decimal size, sha256.text, elapsed.fixed 2]
      else none := by
  show matchHere (word "Checkpoint saved (runtime): step=" ++ _)
    ("Checkpoint saved (runtime): step=".toList ++ _) = _
  rw [matchHere_word]
  show matchHere (digitsGroup :: .literal ' ' :: (word "loss=" ++ _))
    (decimal step ++ ' ' :: ("loss=".toList ++ _)) = _
  rw [digitsGroup, matchHere_decimal true step (by decide), matchHere_word]
  show Option.map _ (matchHere (numberGroup :: .literal ' ' :: (word "size=" ++ _))
    (loss.fixed 4 ++ ' ' :: ("size=".toList ++ _))) = _
  rw [matchHere_fixed_literal loss (by decide), matchHere_word]
  show Option.map _ (if _ then Option.map _ (matchHere (.run 1 Char.isDigit true :: .literal ' ' ::
    (word "bytes sha256=" ++ _)) (decimal size ++ ' ' :: ("bytes sha256=".toList ++ _))) else _) = _
  rw [matchHere_decimal true size (by decide), matchHere_word]
  show Option.map _ (if _ then Option.map _ (Option.map _ (matchHere (wordGroup :: .literal ' ' ::
    (word "time=" ++ _)) (sha256.text ++ ' ' :: ("time=".toList ++ _)))) else _) = _
  rw [matchHere_token, matchHere_word]
  show Option.map _ (if _ then Option.map _ (Option.map _ (Option.map _ (matchHere
    (numberGroup :: .literal 's' :: []) (elapsed.fixed 2 ++ 's' :: [])))) else _) = _
  rw [matchHere_fixed_literal elapsed (by decide), matchHere_nil]
  cases loss.isPlain <;> cases elapsed.isPlain <;> rfl

/-- `RESTORE_RE` at a message about a restored checkpoint. -/
theorem matchHere_restored (checkpointId : Token) (step size : Nat) (elapsed : PyFloat) :
    matchHere restoreRe (TrainMessage.restored checkpointId step size elapsed).text =
      if elapsed.isPlain then
        some [checkpointId.text, decimal step, decimal size, elapsed.fixed 2]
      else none := by
  show matchHere (word "Restored from runtime checkpoint: checkpoint_id=" ++ _)
    ("Restored from runtime checkpoint: checkpoint_id=".toList ++ _) = _
  rw [matchHere_word]
  show matchHere (wordGroup :: .literal ' ' :: (word "step=" ++ _))
    (checkpointId.text ++ ' ' :: ("step=".toList ++ _)) = _
  rw [matchHere_token, matchHere_word]
  show Option.map _ (matchHere (.run 1 Char.isDigit true :: .literal ' ' :: (word "size=" ++ _))
    (decimal step ++ ' ' :: ("size=".toList ++ _))) = _
  rw [matchHere_decimal true step (by decide), matchHere_word]
  show Option.map _ (Option.map _ (matchHere (.run 1 Char.isDigit true :: .literal ' ' ::
    (word "bytes time=" ++ _)) (decimal size ++ ' ' :: ("bytes time=".toList ++ _)))) = _
  rw [matchHere_decimal true size (by decide), matchHere_word]
  show Option.map _ (Option.map _ (Option.map _ (matchHere
    (numberGroup :: .literal 's' :: []) (elapsed.fixed 2 ++ 's' :: [])))) = _
  rw [matchHere_fixed_literal elapsed (by decide), matchHere_nil]
  cases elapsed.isPlain <;> rfl

/-! ## Searching a line -/

section
variable {d : Char}

theorem notMem_decimal_of_isDigit {c : Char} (hc : c.isDigit = false) (n : Nat) :
    c ∉ decimal n := by
  intro hmem
  rw [isDigit_of_mem_decimal hmem] at hc
  cases hc

/-- A character that no number and no token is printed with. -/
def isForeignChar (d : Char) : Bool :=
  !isNumberChar d && !isTokenChar d && decide (d ∉ "-naif".toList)

theorem notMem_decimal (hd : isForeignChar d = true) (n : Nat) : d ∉ decimal n := by
  refine notMem_decimal_of_isDigit ?_ n
  simp only [isForeignChar, isNumberChar, Bool.and_eq_true, Bool.not_eq_true', Bool.or_eq_false_iff]
    at hd
  exact hd.1.1.1

theorem notMem_fixed (hd : isForeignChar d = true) (k : Nat) (x : PyFloat) : d ∉ x.fixed k := by
  intro hmem
  simp only [isForeignChar, Bool.and_eq_true, Bool.not_eq_true', decide_eq_true_eq] at hd
  rcases mem_fixed hmem with hnumber | hletter
  · exact absurd hnumber (by rw [hd.1.1]; decide)
  · exact hd.2 hletter

theorem notMem_token (hd : isForeignChar d = true) (token : Token) : d ∉ token.text := by
  intro hmem
  simp only [isForeignChar, Bool.and_eq_true, Bool.not_eq_true'] at hd
  exact absurd (token.chars d hmem) (by rw [hd.1.2]; decide)

theorem notMem_stamp (hd : isForeignChar d = true) (htime : isTimeChar d = false)
    (hwords : d ∉ " [INFO] rank=".toList) (stamp : LogStamp) : d ∉ stamp.text := by
  have hspace : d ∉ " ".toList := by
    intro hmem
    obtain rfl := List.mem_singleton.mp hmem
    cases htime
  simp only [LogStamp.text, List.mem_append, not_or]
  refine ⟨?_, hspace, ?_, hwords, notMem_decimal hd _, hspace⟩
  · exact fun hmem => absurd (stamp.timestamp_chars d hmem) (by rw [htime]; decide)
  · exact fun hmem => absurd (stamp.asctime_chars d hmem) (by rw [htime]; decide)

theorem notMem_progress {step steps : Nat} {loss stepsPerSec : PyFloat}
    (hd : isForeignChar d = true)
    (hwords : d ∉ "step=".toList ++ ("/".toList ++ ("  loss=".toList ++ "  steps/s=".toList))) :
    d ∉ (TrainMessage.progress step steps loss stepsPerSec).text := by
  simp only [List.mem_append, not_or] at hwords
  obtain ⟨hstep, hslash, hloss, hrate⟩ := hwords
  exact List.not_mem_append hstep <| List.not_mem_append (notMem_decimal hd step) <|
    List.not_mem_append hslash <| List.not_mem_append (notMem_decimal hd steps) <|
    List.not_mem_append hloss <| List.not_mem_append (notMem_fixed hd 4 loss) <|
    List.not_mem_append hrate (notMem_fixed hd 1 stepsPerSec)

theorem notMem_saved (start : Text) (step : Nat) (loss : PyFloat) (size : Nat) (sha256 : Token)
    (elapsed : PyFloat) (hd : isForeignChar d = true)
    (hwords : d ∉ start ++ (" loss=".toList ++ (" size=".toList ++ (" bytes sha256=".toList ++
      (" time=".toList ++ "s".toList))))) :
    d ∉ start ++ (decimal step ++ (" loss=".toList ++ (loss.fixed 4 ++ (" size=".toList ++
      (decimal size ++ (" bytes sha256=".toList ++ (sha256.text ++ (" time=".toList ++
        (elapsed.fixed 2 ++ "s".toList))))))))) := by
  simp only [List.mem_append, not_or] at hwords ⊢
  obtain ⟨hstart, hloss, hsize, hsha, htime, hend⟩ := hwords
  exact ⟨hstart, notMem_decimal hd step, hloss, notMem_fixed hd 4 loss, hsize,
    notMem_decimal hd size, hsha, notMem_token hd sha256, htime, notMem_fixed hd 2 elapsed, hend⟩

theorem notMem_restored (start : Text) (checkpointId : Token) (step size : Nat)
    (elapsed : PyFloat) (hd : isForeignChar d = true)
    (hwords : d ∉ start ++ (" step=".toList ++ (" size=".toList ++ (" bytes time=".toList ++
      "s".toList)))) :
    d ∉ start ++ (checkpointId.text ++ (" step=".toList ++ (decimal step ++ (" size=".toList ++
      (decimal size ++ (" bytes time=".toList ++ (elapsed.fixed 2 ++ "s".toList))))))) := by
  simp only [List.mem_append, not_or] at hwords ⊢
  obtain ⟨hstart, hstep, hsize, htime, hend⟩ := hwords
  exact ⟨hstart, notMem_token hd checkpointId, hstep, notMem_decimal hd step, hsize,
    notMem_decimal hd size, htime, notMem_fixed hd 2 elapsed, hend⟩

end

section
variable (stamp : LogStamp)

/-- A search begins at the message: no pattern begins within a stamp. -/
theorem exec_line {d : Char} {ps : Pattern} (hd : isForeignChar d = true)
    (htime : isTimeChar d = false) (hwords : d ∉ " [INFO] rank=".toList)
    (message : TrainMessage) :
    exec (.literal d :: ps) (logLine stamp message) = exec (.literal d :: ps) message.text :=
  exec_append_of_notMem (notMem_stamp hd htime hwords stamp)

theorem exec_progress (step steps : Nat) (loss stepsPerSec : PyFloat) :
    exec lossRe (logLine stamp (.progress step steps loss stepsPerSec)) =
      if loss.isPlain && stepsPerSec.isPlain then
        some [decimal step, loss.fixed 4, stepsPerSec.fixed 1]
      else none := by
  have hs : isForeignChar 's' = true := by decide
  have hmatch := matchHere_progress step steps loss stepsPerSec
  rw [show exec lossRe _ = exec lossRe _ from
    exec_line stamp hs (by decide) (by decide) (.progress step steps loss stepsPerSec)]
  cases hplain : loss.isPlain && stepsPerSec.isPlain with
  | true =>
      rw [hplain] at hmatch
      exact exec_of_matchHere hmatch
  | false =>
      rw [hplain] at hmatch
      -- the other places where the line has an `s`: `loss` has two and `steps/s` three
      rw [show (TrainMessage.progress step steps loss stepsPerSec).text =
        's' :: ("tep=".toList ++ (decimal step ++ ("/".toList ++ (decimal steps ++ ("  lo".toList ++
          ("ss=".toList ++ (loss.fixed 4 ++ ("  ".toList ++ ("steps/s=".toList ++
            stepsPerSec.fixed 1))))))))) from rfl] at hmatch ⊢
      calc exec lossRe _
          _ = exec lossRe ("tep=".toList ++ _) := exec_cons_of_none hmatch
          _ = exec lossRe (decimal step ++ _) := exec_append_of_notMem (by decide)
          _ = exec lossRe ("/".toList ++ _) := exec_append_of_notMem (notMem_decimal hs step)
          _ = exec lossRe (decimal steps ++ _) := exec_append_of_notMem (by decide)
          _ = exec lossRe ("  lo".toList ++ _) := exec_append_of_notMem (notMem_decimal hs steps)
          _ = exec lossRe ("ss=".toList ++ _) := exec_append_of_notMem (by decide)
          _ = exec lossRe ("s=".toList ++ _) := exec_cons_of_none rfl
          _ = exec lossRe ("=".toList ++ _) := exec_cons_of_none rfl
          _ = exec lossRe (loss.fixed 4 ++ _) := exec_append_of_notMem (by decide)
          _ = exec lossRe ("  ".toList ++ _) := exec_append_of_notMem (notMem_fixed hs 4 loss)
          _ = exec lossRe ("steps/s=".toList ++ _) := exec_append_of_notMem (by decide)
          _ = exec lossRe ("teps/s=".toList ++ _) := exec_cons_of_none rfl
          _ = exec lossRe ("tep".toList ++ ("s/s=".toList ++ _)) := rfl
          _ = exec lossRe ("s/s=".toList ++ _) := exec_append_of_notMem (by decide)
          _ = exec lossRe ("/".toList ++ ("s=".toList ++ _)) := exec_cons_of_none rfl
          _ = exec lossRe ("s=".toList ++ _) := exec_append_of_notMem (by decide)
          _ = exec lossRe ("=".toList ++ _) := exec_cons_of_none rfl
          _ = exec lossRe (stepsPerSec.fixed 1) := exec_append_of_notMem (by decide)
          _ = none := exec_of_notMem (notMem_fixed hs 1 stepsPerSec)

theorem exec_saved (step : Nat) (loss : PyFloat) (size : Nat) (sha256 : Token)
    (elapsed : PyFloat) :
    exec ckptRe (logLine stamp (.saved step loss size sha256 elapsed)) =
      if loss.isPlain && elapsed.isPlain then
        some [decimal step, loss.fixed 4, decimal size, sha256.text, elapsed.fixed 2]
      else none := by
  have hC : isForeignChar 'C' = true := by decide
  have hmatch := matchHere_saved step loss size sha256 elapsed
  rw [show exec ckptRe _ = exec ckptRe _ from
    exec_line stamp hC (by decide) (by decide) (.saved step loss size sha256 elapsed)]
  cases hplain : loss.isPlain && elapsed.isPlain with
  | true =>
      rw [hplain] at hmatch
      exact exec_of_matchHere hmatch
  | false =>
      rw [hplain] at hmatch
      have hrest := notMem_saved "heckpoint saved (runtime): step=".toList step loss size sha256
        elapsed hC (by decide)
      exact (exec_cons_of_none hmatch).trans (exec_of_notMem hrest)

theorem exec_restored (checkpointId : Token) (step size : Nat) (elapsed : PyFloat) :
    exec restoreRe (logLine stamp (.restored checkpointId step size elapsed)) =
      if elapsed.isPlain then
        some [checkpointId.text, decimal step, decimal size, elapsed.fixed 2]
      else none := by
  have hR : isForeignChar 'R' = true := by decide
  have hmatch := matchHere_restored checkpointId step size elapsed
  rw [show exec restoreRe _ = exec restoreRe _ from
    exec_line stamp hR (by decide) (by decide) (.restored checkpointId step size elapsed)]
  cases hplain : elapsed.isPlain with
  | true =>
      rw [hplain] at hmatch
      exact exec_of_matchHere hmatch
  | false =>
      rw [hplain] at hmatch
      have hrest := notMem_restored "estored from runtime checkpoint: checkpoint_id=".toList
        checkpointId step size elapsed hR (by decide)
      exact (exec_cons_of_none hmatch).trans (exec_of_notMem hrest)

/-- Only a progress message has the slash of a loss point. -/
theorem readLoss_eq_none (js : Doubles) {message : TrainMessage} (h : '/' ∉ message.text) :
    readLoss js (logLine stamp message) = none := by
  have hmem : Piece.literal '/' ∈ lossRe := by simp [lossRe, word]
  have hstamp : '/' ∉ stamp.text := notMem_stamp (by decide) (by decide) (by decide) stamp
  rw [readLoss, logLine, exec_eq_none hmem (List.not_mem_append hstamp h)]

theorem readCheckpoint_eq_none (js : Doubles) {message : TrainMessage}
    (h : 'C' ∉ message.text) : readCheckpoint js (logLine stamp message) = none := by
  have hmem : Piece.literal 'C' ∈ ckptRe := List.mem_cons_self
  have hstamp : 'C' ∉ stamp.text := notMem_stamp (by decide) (by decide) (by decide) stamp
  rw [readCheckpoint, logLine, exec_eq_none hmem (List.not_mem_append hstamp h)]

theorem readRecovery_eq_none (js : Doubles) {message : TrainMessage} (h : 'R' ∉ message.text) :
    readRecovery js (logLine stamp message) = none := by
  have hmem : Piece.literal 'R' ∈ restoreRe := List.mem_cons_self
  have hstamp : 'R' ∉ stamp.text := notMem_stamp (by decide) (by decide) (by decide) stamp
  rw [readRecovery, logLine, exec_eq_none hmem (List.not_mem_append hstamp h)]

/-- A saved or restored checkpoint is no progress. -/
theorem readLoss_line (js : Doubles) (message : TrainMessage) :
    readLoss js (logLine stamp message) = message.loss? js := by
  cases message with
  | progress step steps loss stepsPerSec =>
      rw [readLoss, exec_progress, TrainMessage.loss?, shown_eq js (by decide),
        shown_eq js (by decide), ← parseInt_decimal js step]
      cases loss.isPlain <;> cases stepsPerSec.isPlain <;> rfl
  | saved step loss size sha256 elapsed =>
      exact readLoss_eq_none stamp js (notMem_saved "Checkpoint saved (runtime): step=".toList step
        loss size sha256 elapsed (by decide) (by decide))
  | restored checkpointId step size elapsed =>
      exact readLoss_eq_none stamp js (notMem_restored
        "Restored from runtime checkpoint: checkpoint_id=".toList checkpointId step size elapsed
        (by decide) (by decide))

theorem readCheckpoint_line (js : Doubles) (message : TrainMessage) :
    readCheckpoint js (logLine stamp message) = message.checkpoint? js := by
  cases message with
  | progress step steps loss stepsPerSec =>
      exact readCheckpoint_eq_none stamp js (notMem_progress (by decide) (by decide))
  | saved step loss size sha256 elapsed =>
      rw [readCheckpoint, exec_saved, TrainMessage.checkpoint?, shown_eq js (by decide),
        shown_eq js (by decide), ← parseInt_decimal js step, ← parseInt_decimal js size]
      cases loss.isPlain <;> cases elapsed.isPlain <;> rfl
  | restored checkpointId step size elapsed =>
      exact readCheckpoint_eq_none stamp js (notMem_restored
        "Restored from runtime checkpoint: checkpoint_id=".toList checkpointId step size elapsed
        (by decide) (by decide))

theorem readRecovery_line (js : Doubles) (message : TrainMessage) :
    readRecovery js (logLine stamp message) = message.recovery? js := by
  cases message with
  | progress step steps loss stepsPerSec =>
      exact readRecovery_eq_none stamp js (notMem_progress (by decide) (by decide))
  | saved step loss size sha256 elapsed =>
      exact readRecovery_eq_none stamp js (notMem_saved "Checkpoint saved (runtime): step=".toList
        step loss size sha256 elapsed (by decide) (by decide))
  | restored checkpointId step size elapsed =>
      rw [readRecovery, exec_restored, TrainMessage.recovery?, shown_eq js (by decide),
        ← parseInt_decimal js step, ← parseInt_decimal js size]
      cases elapsed.isPlain <;> rfl

/-- **What the dashboard reads from a line is what was printed**: the kind of the
message, its step and sizes, its ids and its figures, to the last printed decimal. -/
theorem reads_line (js : Doubles) (message : TrainMessage) :
    readLoss js (logLine stamp message) = message.loss? js ∧
      readCheckpoint js (logLine stamp message) = message.checkpoint? js ∧
      readRecovery js (logLine stamp message) = message.recovery? js :=
  ⟨readLoss_line stamp js message, readCheckpoint_line stamp js message,
    readRecovery_line stamp js message⟩

end

end CheckpointRuntime
