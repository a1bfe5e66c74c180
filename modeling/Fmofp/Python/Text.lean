import Fmofp.Python.Value

/-! Python text: case, containment, slices, and binary numerals with their round trip.  What Python
takes from Unicode tables or from the running process is a parameter, `Runtime`. -/

namespace Python

/-- The results that a program cannot read off its own text: case and numerals beyond ASCII,
`float` of text, `str` of compound values, hashes, and the printing of floats. -/
structure Runtime where
  lowerUnicode : String → String
  upperUnicode : String → String
  isdigitUnicode : String → Bool
  intLiteral : ℕ → String → Option ℤ
  floatLiteral : String → Option ℚ
  strOther : Value → String
  hash : String → ℤ
  reprFloat : ℚ → String
  jsonLoads : String → Option Value

/-- A runtime that knows only ASCII text and reads no numerals beyond plain digits. -/
def Runtime.ascii : Runtime where
  lowerUnicode := id
  upperUnicode := id
  isdigitUnicode _ := false
  intLiteral _ _ := none
  floatLiteral _ := none
  strOther _ := ""
  hash _ := 0
  reprFloat _ := "0.5"
  jsonLoads _ := none

def isAscii (s : String) : Bool := s.toList.all fun c => decide (c.toNat < 128)

/-- `s.lower()`. -/
def Runtime.lower (py : Runtime) (s : String) : String :=
  if isAscii s then String.ofList (s.toList.map Char.toLower) else py.lowerUnicode s

theorem Runtime.lower_eq_self (py : Runtime) {s : String} (hascii : isAscii s = true)
    (hlower : s.toList.map Char.toLower = s.toList) : py.lower s = s := by
  rw [Runtime.lower, if_pos hascii, hlower, String.ofList_toList]

/-- `s.upper()`. -/
def Runtime.upper (py : Runtime) (s : String) : String :=
  if isAscii s then String.ofList (s.toList.map Char.toUpper) else py.upperUnicode s

/-- `s.isdigit()`. -/
def Runtime.isdigit (py : Runtime) (s : String) : Bool :=
  if isAscii s then decide (s ≠ "") && s.toList.all Char.isDigit else py.isdigitUnicode s

/-- `str(v)`. -/
def Runtime.str (py : Runtime) : Value → String
  | .str s => s
  | v => py.strOther v

/-- `sub in s`. -/
def contains (s sub : String) : Bool := decide (sub.toList <:+: s.toList)

/-- `s.startswith(p)`. -/
def startsWith (s p : String) : Bool := p.toList.isPrefixOf s.toList

/-- `s[a:b]` for `0 ≤ a ≤ b`. -/
def slice (s : String) (a b : ℕ) : String := String.ofList ((s.toList.drop a).take (b - a))

/-- `s.ljust(w, c)`. -/
def ljust (s : String) (w : ℕ) (c : Char) : String :=
  String.ofList (s.toList ++ List.replicate (w - s.length) c)

/-- `s.zfill(w)`: the zeros come after a sign. -/
def zfill (s : String) (w : ℕ) : String :=
  let zeros := List.replicate (w - s.length) '0'
  match s.toList with
  | c :: cs => String.ofList (if c = '+' ∨ c = '-' then c :: (zeros ++ cs) else zeros ++ c :: cs)
  | [] => String.ofList zeros

/-! ### Binary numerals -/

def bitChar (b : Bool) : Char := if b then '1' else '0'

/-- The low `w` binary digits of `n`, most significant first. -/
def bits : ℕ → ℕ → List Char
  | 0, _ => []
  | w + 1, n => bits w (n / 2) ++ [bitChar (n % 2 == 1)]

/-- The number that binary digits write. -/
def ofBits (cs : List Char) : ℕ := cs.foldl (fun acc c => 2 * acc + if c = '1' then 1 else 0) 0

def isBit (c : Char) : Bool := c == '0' || c == '1'

/-- Text of binary digits. -/
def isBinary (s : String) : Bool := s.toList.all isBit

/-- `format(n, f'0{w}b')`: padded with zeros to `w` characters, of which a sign takes one. -/
def formatBin (w : ℕ) : ℤ → String
  | .ofNat n => String.ofList (bits (max w (n.log2 + 1)) n)
  | .negSucc n => String.ofList ('-' :: bits (max (w - 1) ((n + 1).log2 + 1)) (n + 1))

/-- `int(s, 2)`. -/
def Runtime.intBase2 (py : Runtime) (s : String) : Except Exception ℤ :=
  if isBinary s && decide (s ≠ "") then .ok (ofBits s.toList)
  else match py.intLiteral 2 s with
    | some n => .ok n
    | none => .error .valueError

/-- `int(s)`. -/
def Runtime.intBase10 (py : Runtime) (s : String) : Except Exception ℤ :=
  if isAscii s && py.isdigit s then
    .ok (s.toList.foldl (fun acc c => 10 * acc + (c.toNat - '0'.toNat : ℕ)) (0 : ℕ))
  else match py.intLiteral 10 s with
    | some n => .ok n
    | none => .error .valueError

/-- `float(v)`. -/
def toFloat (py : Runtime) (v : Value) : Except Exception ℚ :=
  match v.number?, v with
  | some q, _ => .ok q
  | none, .str s => match py.floatLiteral s with
    | some q => .ok q
    | none => .error .valueError
  | none, _ => .error .typeError

/-- `int(v)`. -/
def toInt (py : Runtime) (v : Value) : Except Exception ℤ :=
  match v.number?, v with
  | some q, _ => .ok (truncate q)
  | none, .str s => py.intBase10 s
  | none, _ => .error .typeError

@[simp] theorem bits_length (w n : ℕ) : (bits w n).length = w := by
  induction w generalizing n with
  | zero => rfl
  | succ w ih => simp [bits, ih]

theorem isBit_bitChar (b : Bool) : isBit (bitChar b) = true := by cases b <;> decide

theorem isBit_of_mem_bits {w n : ℕ} {c : Char} (h : c ∈ bits w n) : isBit c = true := by
  induction w generalizing n with
  | zero => simp [bits] at h
  | succ w ih =>
    rcases List.mem_append.mp h with h | h
    · exact ih h
    · rw [List.mem_singleton.mp h]
      exact isBit_bitChar _

theorem ofBits_append (cs : List Char) (c : Char) :
    ofBits (cs ++ [c]) = 2 * ofBits cs + if c = '1' then 1 else 0 := by
  simp [ofBits]

/-- Reading `w` binary digits of `n` gives `n` modulo `2^w`. -/
theorem ofBits_bits (w n : ℕ) : ofBits (bits w n) = n % 2 ^ w := by
  induction w generalizing n with
  | zero => simp [bits, ofBits, Nat.mod_one]
  | succ w ih =>
    rw [bits, ofBits_append, ih, pow_succ, mul_comm (2 ^ w) 2, Nat.mod_mul]
    rcases Nat.mod_two_eq_zero_or_one n with h | h <;> simp [h, bitChar, add_comm]

theorem ofBits_bits_of_lt {w n : ℕ} (h : n < 2 ^ w) : ofBits (bits w n) = n := by
  rw [ofBits_bits, Nat.mod_eq_of_lt h]

theorem ofBits_lt (cs : List Char) : ofBits cs < 2 ^ cs.length := by
  induction cs using List.reverseRecOn with
  | nil => simp [ofBits]
  | append_singleton cs c ih =>
    rw [ofBits_append, List.length_append, List.length_singleton, pow_succ]
    split <;> omega

/-- Writing the number of some binary digits gives the digits back. -/
theorem bits_ofBits {cs : List Char} (h : ∀ c ∈ cs, isBit c = true) :
    bits cs.length (ofBits cs) = cs := by
  induction cs using List.reverseRecOn with
  | nil => rfl
  | append_singleton cs c ih =>
    have hc : c = '0' ∨ c = '1' := by simpa [isBit] using h c (by simp)
    have hdiv : ofBits (cs ++ [c]) / 2 = ofBits cs := by
      rw [ofBits_append]
      split <;> omega
    have hmod : bitChar (ofBits (cs ++ [c]) % 2 == 1) = c := by
      rw [ofBits_append]
      rcases hc with rfl | rfl <;> simp [bitChar, Nat.add_mod]
    rw [List.length_append, List.length_singleton, bits, hdiv,
      ih fun d hd => h d (List.mem_append_left _ hd), hmod]

theorem log2_lt_of_lt {w n : ℕ} (hw : 0 < w) (h : n < 2 ^ w) : n.log2 + 1 ≤ w := by
  by_cases hn : n = 0
  · subst hn
    rw [Nat.log2_zero]
    omega
  · exact (Nat.log2_lt hn).mpr h

/-- A number that fits `w` binary digits is formatted as those digits. -/
theorem formatBin_of_lt {w n : ℕ} (hw : 0 < w) (h : n < 2 ^ w) :
    formatBin w n = String.ofList (bits w n) := by
  show String.ofList (bits (max w (n.log2 + 1)) n) = _
  rw [max_eq_left (log2_lt_of_lt hw h)]

/-- Exactly the numbers below `2^w` are formatted as `w` binary digits. -/
theorem formatBin_wellFormed_iff {w : ℕ} (hw : 0 < w) (n : ℤ) :
    ((formatBin w n).length = w ∧ isBinary (formatBin w n) = true) ↔ 0 ≤ n ∧ n < 2 ^ w := by
  cases n with
  | ofNat n =>
    have hlen : (formatBin w (Int.ofNat n)).length = max w (n.log2 + 1) := by
      simp [formatBin, String.length_ofList]
    constructor
    · rintro ⟨h, -⟩
      rw [hlen] at h
      have hlog : n.log2 < w := by
        have := le_max_right w (n.log2 + 1)
        omega
      refine ⟨Int.natCast_nonneg n, ?_⟩
      have hn : n < 2 ^ w := by
        by_cases h0 : n = 0
        · subst h0
          positivity
        · exact (Nat.log2_lt h0).mp hlog
      rw [Int.ofNat_eq_natCast]
      exact_mod_cast hn
    · rintro ⟨-, h⟩
      rw [Int.ofNat_eq_natCast] at h
      have hn : n < 2 ^ w := by exact_mod_cast h
      have hfmt : formatBin w (Int.ofNat n) = String.ofList (bits w n) := formatBin_of_lt hw hn
      rw [hfmt]
      refine ⟨by simp [String.length_ofList], ?_⟩
      simp only [isBinary, String.toList_ofList, List.all_eq_true]
      exact fun c hc => isBit_of_mem_bits hc
  | negSucc n =>
    constructor
    · rintro ⟨-, h⟩
      simp [formatBin, isBinary, isBit] at h
    · rintro ⟨h, -⟩
      exact absurd h (by simp)

theorem isBinary_ofList {cs : List Char} :
    isBinary (String.ofList cs) = true ↔ ∀ c ∈ cs, isBit c = true := by
  simp [isBinary]

/-- `int(s, 2)` of binary digits. -/
theorem Runtime.intBase2_of_isBinary (py : Runtime) {s : String} (h : isBinary s = true)
    (hne : s ≠ "") : py.intBase2 s = .ok (ofBits s.toList) := by
  simp [Runtime.intBase2, h, hne]

theorem Runtime.intBase2_error {py : Runtime} {s : String} {e : Exception}
    (h : py.intBase2 s = .error e) : e = .valueError := by
  unfold Runtime.intBase2 at h
  split_ifs at h
  split at h
  · cases h
  · cases h
    rfl

theorem ofList_bits_ne_empty {w : ℕ} (hw : 0 < w) (n : ℕ) : String.ofList (bits w n) ≠ "" := by
  intro h
  have := congrArg String.length h
  simp [String.length_ofList] at this
  omega

/-- Formatting and reading back a number that fits. -/
theorem Runtime.intBase2_formatBin (py : Runtime) {w n : ℕ} (hw : 0 < w) (h : n < 2 ^ w) :
    py.intBase2 (formatBin w n) = .ok n := by
  rw [formatBin_of_lt hw h, Runtime.intBase2_of_isBinary py _ (ofList_bits_ne_empty hw n)]
  · rw [String.toList_ofList, ofBits_bits_of_lt h]
  · rw [isBinary_ofList]
    exact fun c hc => isBit_of_mem_bits hc

end Python

/-! Text without the white space at its ends, and suffixes. -/

namespace Python

/-- `c.isspace()`. -/
def isSpace (c : Char) : Bool :=
  let n := c.toNat
  decide (9 ≤ n ∧ n ≤ 13 ∨ 28 ≤ n ∧ n ≤ 32 ∨ n ∈ [0x85, 0xA0, 0x1680] ∨ 0x2000 ≤ n ∧ n ≤ 0x200A ∨
    n ∈ [0x2028, 0x2029, 0x202F, 0x205F, 0x3000])

/-- `s.strip()`. -/
def strip (s : String) : String :=
  String.ofList ((s.toList.dropWhile isSpace).reverse.dropWhile isSpace).reverse

/-- `s.endswith(t)`. -/
def endsWith (s t : String) : Bool := t.toList.isSuffixOf s.toList

theorem endsWith_append (s t : String) : endsWith (s ++ t) t = true := by
  rw [endsWith, List.isSuffixOf_iff_suffix, String.toList_append]
  exact List.suffix_append _ _

end Python

/-! Decimal numerals that are filled up with zeros, as identifiers carry them: the number and the text
before the hyphen can be read back. -/

namespace Python

/-- `f"{p}-{n:0{w}d}"`. -/
def numbered (p : String) (w n : ℕ) : String := p ++ "-" ++ zfill (toString n) w

theorem toList_zfill_toString (w n : ℕ) :
    (zfill (toString n) w).toList =
      List.replicate (w - (toString n).length) '0' ++ Nat.toDigits 10 n := by
  have hdigits : (toString n).toList = Nat.toDigits 10 n := Nat.toList_repr
  unfold zfill
  simp only [hdigits]
  split
  · rename_i c cs hcs
    have hsign : ¬(c = '+' ∨ c = '-') := by
      have hdigit : c.isDigit = true :=
        Nat.isDigit_of_mem_toDigits (by decide) (by decide) (hcs ▸ List.mem_cons_self)
      rintro (rfl | rfl) <;> exact absurd hdigit (by decide)
    rw [if_neg hsign, hcs, String.toList_ofList]
  · rename_i hnil
    rw [String.toList_ofList, hnil, List.append_nil]

/-- The number that a numeral stands for. -/
theorem ofDigitChars_zfill (w n : ℕ) : Nat.ofDigitChars 10 (zfill (toString n) w).toList 0 = n := by
  rw [toList_zfill_toString, Nat.ofDigitChars_append, Nat.ofDigitChars_replicate_zero, Nat.mul_zero,
    Nat.ofDigitChars_ten_toDigits]

/-- Identifiers with no hyphen before theirs tell the text and the number. -/
theorem numbered_inj {p q : String} {w n m : ℕ} (hp : '-' ∉ p.toList) (hq : '-' ∉ q.toList)
    (h : numbered p w n = numbered q w m) : p = q ∧ n = m := by
  have hlist : p.toList ++ '-' :: (zfill (toString n) w).toList =
      q.toList ++ '-' :: (zfill (toString m) w).toList := by
    have := congrArg String.toList h
    simpa only [numbered, String.toList_append, List.append_assoc, show "-".toList = ['-'] from rfl,
      List.singleton_append] using this
  have hpass : ∀ {s : String}, '-' ∉ s.toList → ∀ c ∈ s.toList, decide (c ≠ '-') = true := by
    intro s hs c hc
    exact decide_eq_true fun heq => hs (heq ▸ hc)
  constructor
  · have htake := congrArg (List.takeWhile fun c => decide (c ≠ '-')) hlist
    rw [List.takeWhile_append_of_pos (hpass hp), List.takeWhile_append_of_pos (hpass hq)] at htake
    exact String.toList_injective (by simpa using htake)
  · have hdrop := congrArg (List.dropWhile fun c => decide (c ≠ '-')) hlist
    rw [List.dropWhile_append_of_pos (hpass hp), List.dropWhile_append_of_pos (hpass hq)] at hdrop
    have hdigits : (zfill (toString n) w).toList = (zfill (toString m) w).toList := by simpa using hdrop
    have hnumber := congrArg (fun cs => Nat.ofDigitChars 10 cs 0) hdigits
    simpa only [ofDigitChars_zfill] using hnumber

end Python
