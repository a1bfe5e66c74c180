import Fmofp.FlightControl.WireFormat

/-! The receivers of control inputs: the control surface and the value that each of them reads off a
message and hands to `set_control_input`. -/

namespace Fmofp.FlightControl

open Python

/-- The number that decimal digits write. -/
def decimal (cs : List Char) : ℕ := cs.foldl (fun acc c => 10 * acc + (c.toNat - '0'.toNat)) 0

/-- `float(s)`: plain digits write a whole number. -/
def floatText (py : Runtime) (s : String) : Option ℚ :=
  if isAscii s && py.isdigit s then some (decimal s.toList) else py.floatLiteral s

/-- The arguments of `set_control_input`, if it is called. -/
abbrev Call := Option (Value × Value)

/-- The value, or what is tried next when there is none. -/
def orElse (v next : Value) : Value := if v = .none then next else v

def called (controlType value : Value) : Call :=
  if controlType = .none ∨ value = .none then none else some (controlType, value)

/-- The names of the first four codes, which two receivers write out. -/
def controlTypeOfCode (n : ℤ) : Value :=
  if n = 1 then .str "aileron"
  else if n = 2 then .str "elevator"
  else if n = 3 then .str "rudder"
  else if n = 4 then .str "throttle"
  else .none

/-- A 16-bit signed integer as a share of the largest one. -/
def signedShare (n : ℤ) : ℚ := ((if n > 32767 then n - 65536 else n : ℤ) : ℚ) / 32767

/-! ### `FCSMessageHandler._handle_control_input_request` -/

/-- `int(v, 2)`. -/
def parseWord (py : Runtime) : Value → Except Exception ℤ
  | .str s => py.intBase2 s
  | _ => .error .typeError

/-- `v[0]` and `v[1]` of data words, of which there are two at least. -/
def firstWords (v : Value) : Except Exception (Value × Value) :=
  match v with
  | .dict _ => .error .keyError
  | _ => do
    match ← v.iterate with
    | first :: second :: _ => return (first, second)
    | _ => throw .indexError

def parseDataWords (py : Runtime) (dataWords : Value) : Except Exception (Value × Value) := do
  if 2 ≤ (← dataWords.length) then
    let words ← firstWords dataWords
    let code ← parseWord py words.1
    let scaled ← parseWord py words.2
    return (((Dict.get? codeToControlSurface code).map Value.str).getD .none,
      .float (decodeControlValue scaled))
  else return (.none, .float 0)

/-- What is found in a message; a key `parameters` is looked at instead of the data words. -/
def requestedInput (py : Runtime) (message : Message) : Except Exception (Value × Value) :=
  match Dict.get? message "parameters" with
  | some parameters => do
    return (← parameters.get "control_type" .none, ← parameters.get "value" (.float 0))
  | none =>
    if Dict.has message "data" then parseDataWords py (Dict.getD message "data_words" (.list []))
    else .ok (.none, .float 0)

/-- The handler, with or without a flight control system at hand. -/
def handleControlInputRequest (py : Runtime) (fcs : Bool) (message : Message) : Call :=
  match requestedInput py message with
  | .ok (surface, value) => if surface.truthy && fcs then some (surface, value) else none
  | .error _ => none

/-! ### `FlightControlSystem._handle_control_input_sync` -/

/-- The number that the text of a control word is taken for: hexadecimal or binary where it says so,
and else decimal. -/
def controlWordNumber (py : Runtime) (s : String) : Option ℤ :=
  if startsWith s "0x" then py.intLiteral 16 s
  else if startsWith s "0b" then (py.intBase2 s).toOption
  else (py.intBase10 s).toOption

def syncControlType (py : Runtime) : Value → Value
  | .str s => match controlWordNumber py s with
    | some n => controlTypeOfCode n
    | none => .str s
  | v => (v.int?.map controlTypeOfCode).getD .none

def syncValue (py : Runtime) : Value → Value
  | .str s => ((floatText py s).map Value.float).getD .none
  | .float q => .float q
  | v => (v.int?.map fun n => Value.float (signedShare n)).getD .none

/-- The first two words of the data, when it is a list of two words at least. -/
def dataPair (fields : Message) : Option (Value × Value) :=
  match Dict.getD fields "data" .none with
  | .list (first :: second :: _) => some (first, second)
  | _ => none

/-- `message.metadata[k]`, where there is a dictionary that has it. -/
def metadataField (attributes : Message) (k : String) : Value :=
  match Dict.getD attributes "metadata" .none with
  | .dict metadata => Dict.getD metadata k .none
  | _ => .none

/-- The method, on the attributes of a message. -/
def handleControlInputSync (py : Runtime) (attributes : Message) : Call :=
  let words := dataPair attributes
  let controlType := (words.map fun w => syncControlType py w.1).getD .none
  let value := (words.map fun w => syncValue py w.2).getD .none
  called
    (orElse (orElse controlType (Dict.getD attributes "control_type" .none))
      (metadataField attributes "control_type"))
    (orElse (orElse value (Dict.getD attributes "value" .none)) (metadataField attributes "value"))

/-! ### `FMSMessageProcessor._handle_control_input` -/

def processorControlType : Value → Value
  | .str s => .str s
  | v => (v.int?.map controlTypeOfCode).getD .none

/-- An integer is scaled unless it is -1, 0 or 1. -/
def processorValue (py : Runtime) : Value → Value
  | .str s => ((floatText py s).map Value.float).getD .none
  | .float q => .float q
  | v => (v.int?.map fun n => Value.float (if |n| > 1 then signedShare n else n)).getD .none

def handleControlInput (py : Runtime) (fcs : Bool) (message : Message) : Call :=
  if fcs then
    let words := dataPair message
    let controlType := (words.map fun w => processorControlType w.1).getD .none
    let value := (words.map fun w => processorValue py w.2).getD .none
    called (orElse controlType (Dict.getD message "control_type" .none))
      (orElse value (Dict.getD message "value" .none))
  else none

/-! ### The words at the receivers -/

/-- The form of the words in the data of a message: their text, or their values as integers. -/
inductive Form where
  | text
  | number
  deriving DecidableEq

def Form.word (py : Runtime) : Form → String → Value
  | .text, w => .str w
  | .number, w => match py.intBase2 w with
    | .ok n => .int n
    | .error _ => .str w

/-- The three receivers; two of them hand the input on to a flight control system, if they have one. -/
inductive Receiver where
  | messageHandler (fcs : Bool) (data : Value)
  | flightControlSystem (form : Form)
  | messageProcessor (fcs : Bool) (form : Form)

/-- The message in which the words reach a receiver.  All its other fields are arbitrary. -/
def Receiver.message (py : Runtime) (words : List String) (rest : Message) : Receiver → Message
  | .messageHandler _ data =>
    Dict.set (Dict.set (Dict.erase rest "parameters") "data" data) "data_words"
      (.list (words.map Value.str))
  | .flightControlSystem form => Dict.set rest "data" (.list (words.map (form.word py)))
  | .messageProcessor _ form => Dict.set rest "data" (.list (words.map (form.word py)))

def Receiver.call (py : Runtime) (message : Message) : Receiver → Call
  | .messageHandler fcs _ => handleControlInputRequest py fcs message
  | .flightControlSystem _ => handleControlInputSync py message
  | .messageProcessor fcs _ => handleControlInput py fcs message

/-- The call is for the surface, with a value within half a quantum of the given one. -/
def Faithful (surface : String) (value : ℚ) (call : Call) : Prop :=
  ∃ given received, call = some (.str surface, given) ∧ given.number? = some received ∧
    |received - value| ≤ 1 / 1000

/-- Where the share of 32767 comes as close to a value as its code does. -/
def NearShare (value : ℚ) : Prop :=
  507 / 32767 - 1 / 1000 ≤ value ∧ value ≤ 508 / 32767 + 1 / 1000

/-- When a receiver understands the words. -/
def Receiver.Understands (value : ℚ) : Receiver → Prop
  | .messageHandler fcs _ => fcs = true
  | .flightControlSystem .number => NearShare value
  | .messageProcessor fcs .number => fcs = true ∧ NearShare value
  | .flightControlSystem .text => False
  | .messageProcessor _ .text => False

/-! ### The text of a word -/

theorem decimal_append (cs : List Char) (c : Char) :
    decimal (cs ++ [c]) = 10 * decimal cs + (c.toNat - '0'.toNat) := by
  simp [decimal]

/-- Binary digits that are read as decimal ones write a number at least as large. -/
theorem ofBits_le_decimal (cs : List Char) (h : ∀ c ∈ cs, isBit c = true) :
    ofBits cs ≤ decimal cs := by
  induction cs using List.reverseRecOn with
  | nil => exact Nat.le_refl 0
  | append_singleton cs c ih =>
    have hcs : ofBits cs ≤ decimal cs := ih fun d hd => h d (List.mem_append_left _ hd)
    have hc : c = '0' ∨ c = '1' := by simpa [isBit] using h c (by simp)
    rw [ofBits_append, decimal_append]
    rcases hc with rfl | rfl <;> simp <;> omega

section

variable {n : ℕ} (hn : n < 2 ^ 16)

include hn

theorem toList_formatBin : (formatBin 16 n).toList = bits 16 n := by
  rw [formatBin_of_lt (by decide) hn, String.toList_ofList]

/-- The text of a word is a decimal numeral too. -/
theorem isdigit_formatBin (py : Runtime) :
    (isAscii (formatBin 16 n) && py.isdigit (formatBin 16 n)) = true := by
  have hbit : ∀ c ∈ bits 16 n, c = '0' ∨ c = '1' := by
    intro c hc
    simpa [isBit] using isBit_of_mem_bits hc
  have hascii : isAscii (formatBin 16 n) = true := by
    rw [isAscii, toList_formatBin hn, List.all_eq_true]
    intro c hc
    rcases hbit c hc with rfl | rfl <;> decide
  have hne : formatBin 16 n ≠ "" := by
    rw [formatBin_of_lt (by decide) hn]
    exact ofList_bits_ne_empty (by decide) n
  rw [hascii, Bool.true_and, Runtime.isdigit, if_pos hascii, decide_eq_true hne, Bool.true_and,
    toList_formatBin hn, List.all_eq_true]
  intro c hc
  rcases hbit c hc with rfl | rfl <;> decide

theorem floatText_formatBin (py : Runtime) :
    floatText py (formatBin 16 n) = some (decimal (bits 16 n) : ℚ) := by
  rw [floatText, if_pos (isdigit_formatBin hn py), toList_formatBin hn]

theorem le_decimal_bits : n ≤ decimal (bits 16 n) := by
  have hle := ofBits_le_decimal (bits 16 n) fun c hc => isBit_of_mem_bits hc
  rwa [ofBits_bits_of_lt hn] at hle

theorem number_word (py : Runtime) : Form.word py .number (formatBin 16 n) = .int n := by
  show (match py.intBase2 (formatBin 16 n) with | .ok n => Value.int n | .error _ => _) = _
  rw [Runtime.intBase2_formatBin py (by decide) hn]

end

/-- The text of a code is not the name of a surface. -/
theorem formatBin_ne_surface {surface : String} (h : surface ∈ applicableControlSurfaces) {n : ℕ}
    (hn : n < 2 ^ 16) : formatBin 16 n ≠ surface := by
  intro heq
  have hlen : surface.length = 16 := by
    rw [← heq, formatBin_of_lt (by decide) hn, String.length_ofList, bits_length]
  simp only [applicableControlSurfaces, List.mem_cons, List.not_mem_nil, or_false] at h
  rcases h with rfl | rfl | rfl | rfl <;> exact absurd hlen (by decide)

/-! ### What each receiver makes of the words -/

@[simp] theorem orElse_of_ne {v : Value} (h : v ≠ .none) (next : Value) : orElse v next = v :=
  if_neg h

/-- The code of a value as a natural number. -/
theorem exists_scaled (value : ℚ) :
    ∃ n : ℕ, encodeControlValue value = n ∧ n ≤ 1000 := by
  obtain ⟨hnonneg, hle⟩ := encodeControlValue_range value
  obtain ⟨n, hn⟩ := Int.eq_ofNat_of_zero_le hnonneg
  exact ⟨n, hn, by omega⟩

section

variable (py : Runtime) (rest : Message) {surface : String} {code n : ℕ}
  (hcode : code = 1 ∧ surface = "aileron" ∨ code = 2 ∧ surface = "elevator" ∨
    code = 3 ∧ surface = "rudder" ∨ code = 4 ∧ surface = "throttle")
  (hn : n ≤ 1000)

include hcode in
theorem controlTypeOfCode_eq : controlTypeOfCode code = .str surface := by
  rcases hcode with ⟨rfl, rfl⟩ | ⟨rfl, rfl⟩ | ⟨rfl, rfl⟩ | ⟨rfl, rfl⟩ <;> rfl

include hcode hn

/-- `FCSMessageHandler` decodes with the tables of the encoder. -/
theorem call_messageHandler (fcs : Bool) (data : Value) :
    Receiver.call py ((Receiver.messageHandler fcs data).message py
      [formatBin 16 code, formatBin 16 n] rest) (.messageHandler fcs data) =
    if fcs then some (.str surface, .float (decodeControlValue n)) else none := by
  have hparameters : Dict.get? ((Receiver.messageHandler fcs data).message py
      [formatBin 16 code, formatBin 16 n] rest) "parameters" = none := by
    simp [Receiver.message, Dict.get?_set]
  have hdata : Dict.has ((Receiver.messageHandler fcs data).message py
      [formatBin 16 code, formatBin 16 n] rest) "data" = true := by
    simp [Receiver.message, Dict.has, Dict.get?_set]
  have hwords : Dict.getD ((Receiver.messageHandler fcs data).message py
      [formatBin 16 code, formatBin 16 n] rest) "data_words" (.list []) =
      .list [.str (formatBin 16 code), .str (formatBin 16 n)] := by
    simp [Receiver.message, Dict.getD]
  have hparse : parseDataWords py (.list [.str (formatBin 16 code), .str (formatBin 16 n)]) =
      .ok (((Dict.get? codeToControlSurface (code : ℤ)).map Value.str).getD .none,
        .float (decodeControlValue n)) := by
    have hfirst := Runtime.intBase2_formatBin py (w := 16) (n := code) (by decide) (by omega)
    have hsecond := Runtime.intBase2_formatBin py (w := 16) (n := n) (by decide) (by omega)
    simp [parseDataWords, Value.length, firstWords, Value.iterate, parseWord, hfirst, hsecond, bind,
      Except.bind, pure, Except.pure]
  have hsurface : ((Dict.get? codeToControlSurface (code : ℤ)).map Value.str).getD .none =
      .str surface := by
    rcases hcode with ⟨rfl, rfl⟩ | ⟨rfl, rfl⟩ | ⟨rfl, rfl⟩ | ⟨rfl, rfl⟩ <;> rfl
  have htruthy : (Value.str surface).truthy = true := by
    rcases hcode with ⟨-, rfl⟩ | ⟨-, rfl⟩ | ⟨-, rfl⟩ | ⟨-, rfl⟩ <;> decide
  simp only [Receiver.call, handleControlInputRequest, requestedInput, hparameters, hdata, hwords,
    hparse, hsurface, htruthy, if_true, Bool.true_and]

/-- The other two take an integer for a share of 32767. -/
theorem call_flightControlSystem_number :
    Receiver.call py ((Receiver.flightControlSystem .number).message py
      [formatBin 16 code, formatBin 16 n] rest) (.flightControlSystem .number) =
    some (.str surface, .float (n / 32767)) := by
  have hpair : dataPair ((Receiver.flightControlSystem .number).message py
      [formatBin 16 code, formatBin 16 n] rest) = some (.int code, .int n) := by
    simp [dataPair, Receiver.message, Dict.getD, number_word (n := code) (by omega),
      number_word (n := n) (by omega)]
  have hshare : signedShare n = (n : ℚ) / 32767 := by
    rw [signedShare, if_neg (by omega), Int.cast_natCast]
  have htype : controlTypeOfCode (code : ℤ) = .str surface := controlTypeOfCode_eq hcode
  simp [Receiver.call, handleControlInputSync, hpair, syncControlType, syncValue, Value.int?, htype,
    hshare, called]

theorem call_messageProcessor_number :
    Receiver.call py ((Receiver.messageProcessor true .number).message py
      [formatBin 16 code, formatBin 16 n] rest) (.messageProcessor true .number) =
    some (.str surface, .float (if n ≤ 1 then n else n / 32767)) := by
  have hpair : dataPair ((Receiver.messageProcessor true .number).message py
      [formatBin 16 code, formatBin 16 n] rest) = some (.int code, .int n) := by
    simp [dataPair, Receiver.message, Dict.getD, number_word (n := code) (by omega),
      number_word (n := n) (by omega)]
  have hvalue : processorValue py (.int n) = .float (if n ≤ 1 then n else n / 32767) := by
    show Value.float (if |(n : ℤ)| > 1 then signedShare n else ((n : ℤ) : ℚ)) = _
    rw [Nat.abs_cast]
    by_cases h : n ≤ 1
    · rw [if_neg (by omega), if_pos h, Int.cast_natCast]
    · rw [if_pos (by omega), if_neg h, signedShare, if_neg (by omega), Int.cast_natCast]
  have htype : processorControlType (.int code) = .str surface := controlTypeOfCode_eq hcode
  simp only [Receiver.call, handleControlInput, hpair, Option.map_some, Option.getD_some, hvalue,
    htype, orElse, called, reduceCtorEq, or_self, if_true, if_false]

omit hcode in
/-- The text of the value is read as a decimal numeral. -/
theorem call_flightControlSystem_text {given : Value} {controlType : Value}
    (hcall : Receiver.call py ((Receiver.flightControlSystem .text).message py
      [formatBin 16 code, formatBin 16 n] rest) (.flightControlSystem .text) =
      some (controlType, given)) : given = .float (decimal (bits 16 n)) := by
  have hpair : dataPair ((Receiver.flightControlSystem .text).message py
      [formatBin 16 code, formatBin 16 n] rest) =
      some (.str (formatBin 16 code), .str (formatBin 16 n)) := by
    simp [dataPair, Receiver.message, Dict.getD, Form.word]
  have hvalue : syncValue py (.str (formatBin 16 n)) = .float (decimal (bits 16 n)) := by
    rw [syncValue, floatText_formatBin (by omega), Option.map_some, Option.getD_some]
  simp only [Receiver.call, handleControlInputSync, hpair, Option.map_some, Option.getD_some, hvalue,
    orElse_of_ne (show Value.float _ ≠ Value.none by simp), called] at hcall
  split at hcall
  · cases hcall
  · cases hcall
    rfl

omit hcode hn in
/-- The text of the code is taken for the name of the surface. -/
theorem call_messageProcessor_text {fcs : Bool} {given controlType : Value}
    (hcall : Receiver.call py ((Receiver.messageProcessor fcs .text).message py
      [formatBin 16 code, formatBin 16 n] rest) (.messageProcessor fcs .text) =
      some (controlType, given)) : controlType = .str (formatBin 16 code) := by
  have hpair : dataPair ((Receiver.messageProcessor fcs .text).message py
      [formatBin 16 code, formatBin 16 n] rest) =
      some (.str (formatBin 16 code), .str (formatBin 16 n)) := by
    simp [dataPair, Receiver.message, Dict.getD, Form.word]
  simp only [Receiver.call, handleControlInput, hpair, Option.map_some, Option.getD_some,
    processorControlType, orElse_of_ne (show Value.str _ ≠ Value.none by simp), called] at hcall
  split at hcall
  · split at hcall
    · cases hcall
    · cases hcall
      rfl
  · cases hcall

end

/-! ### How close the shares come -/

theorem faithful_some (surface : String) (value q : ℚ) :
    Faithful surface value (some (.str surface, .float q)) ↔ |q - value| ≤ 1 / 1000 := by
  constructor
  · rintro ⟨given, received, hcall, hnumber, hnear⟩
    cases hcall
    cases hnumber
    exact hnear
  · exact fun h => ⟨_, _, rfl, rfl, h⟩

theorem two_codes {n : ℕ} (hlower : (506 : ℚ) < n) (hupper : (n : ℚ) < 509) :
    n = 507 ∨ n = 508 := by
  have hlower' : 506 < n := by exact_mod_cast hlower
  have hupper' : n < 509 := by exact_mod_cast hupper
  omega

section

variable {value : ℚ} {n : ℕ} (hscaled : encodeControlValue value = n) (hlow : -1 ≤ value)
  (hhigh : value ≤ 1)

include hscaled hlow hhigh

theorem scaled_bounds : value ≤ n / 500 - 1 + 1 / 1000 ∧ (n : ℚ) / 500 - 1 - 1 / 1000 ≤ value := by
  have hcode := abs_sub_le_iff.mp (abs_encodeControlValue_sub_le hlow hhigh)
  rw [hscaled, Int.cast_natCast] at hcode
  constructor <;> linarith [hcode.1, hcode.2]

/-- Only the codes 507 and 508 are near the value as shares of 32767. -/
theorem share_near_iff : |(n : ℚ) / 32767 - value| ≤ 1 / 1000 ↔ NearShare value := by
  obtain ⟨hle, hge⟩ := scaled_bounds hscaled hlow hhigh
  constructor
  · intro h
    obtain ⟨habove, hbelow⟩ := abs_sub_le_iff.mp h
    have hn : n = 507 ∨ n = 508 := two_codes (by linarith) (by linarith)
    rcases hn with rfl | rfl
    · push_cast at habove hbelow
      constructor <;> linarith
    · push_cast at habove hbelow
      constructor <;> linarith
  · rintro ⟨hfrom, hto⟩
    have hn : n = 507 ∨ n = 508 := two_codes (by linarith) (by linarith)
    apply abs_sub_le_iff.mpr
    rcases hn with rfl | rfl
    · push_cast at hle hge ⊢
      constructor <;> linarith
    · push_cast at hle hge ⊢
      constructor <;> linarith

/-- No value is near its code, and none near a number as large as its code or larger. -/
theorem not_near_of_le {q : ℚ} (hq : (n : ℚ) ≤ q) : ¬|q - value| ≤ 1 / 1000 := by
  intro h
  obtain ⟨habove, -⟩ := abs_sub_le_iff.mp h
  obtain ⟨hle, -⟩ := scaled_bounds hscaled hlow hhigh
  have hnonneg : (0 : ℚ) ≤ n := Nat.cast_nonneg n
  linarith

end

/-- `FCSMessageHandler` understands the words of every value; the other two understand no text, and of
the integers only those of values near 0.0155. -/
theorem faithful_iff_understands (py : Runtime) {surface : String}
    (hsurface : surface ∈ applicableControlSurfaces) {value : ℚ}
    (hvalue : InControlRange surface value) (receiver : Receiver) (rest : Message) :
    ∃ words, controlInputDataWords py (.str surface) (.float value) = .ok words ∧
      (Faithful surface value (receiver.call py (receiver.message py words rest)) ↔
        receiver.Understands value) := by
  obtain ⟨code, hcode, hget⟩ := applicable_cases py hsurface
  obtain ⟨n, hscaled, hn⟩ := exists_scaled value
  have hlow := hvalue.le
  have hhigh := hvalue.2
  refine ⟨_, controlInputDataWords_eq hget value, ?_⟩
  rw [hscaled]
  cases receiver with
  | messageHandler fcs data =>
    rw [call_messageHandler py rest hcode hn]
    have hnear := abs_decodeControlValue_sub_le hlow hhigh
    rw [hscaled] at hnear
    cases fcs with
    | false => simp [Faithful, Receiver.Understands]
    | true => exact iff_of_true ((faithful_some surface value _).mpr hnear) rfl
  | flightControlSystem form =>
    cases form with
    | text =>
      refine iff_of_false ?_ id
      rintro ⟨given, received, hcall, hnumber, hnear⟩
      rw [call_flightControlSystem_text py rest hn hcall] at hnumber
      cases hnumber
      refine not_near_of_le hscaled hlow hhigh ?_ hnear
      exact_mod_cast le_decimal_bits (n := n) (by omega)
    | number =>
      rw [call_flightControlSystem_number py rest hcode hn]
      exact (faithful_some surface value _).trans (share_near_iff hscaled hlow hhigh)
  | messageProcessor fcs form =>
    cases form with
    | text =>
      refine iff_of_false ?_ id
      rintro ⟨given, received, hcall, -, -⟩
      have htype := call_messageProcessor_text py rest hcall
      cases htype
      exact formatBin_ne_surface hsurface (n := code) (by omega) rfl
    | number =>
      cases fcs with
      | false => simp [Faithful, Receiver.Understands, Receiver.call, handleControlInput]
      | true =>
        rw [call_messageProcessor_number py rest hcode hn, faithful_some]
        by_cases h : n ≤ 1
        · -- the codes 0 and 1 are not scaled
          rw [if_pos h]
          refine iff_of_false (not_near_of_le hscaled hlow hhigh le_rfl) ?_
          rintro ⟨-, hfrom, -⟩
          obtain ⟨hle, -⟩ := scaled_bounds hscaled hlow hhigh
          have hone : (n : ℚ) ≤ 1 := by exact_mod_cast h
          linarith
        · rw [if_neg h, share_near_iff hscaled hlow hhigh]
          exact (and_iff_right rfl).symm

theorem faithful_iff_understands_elevator :
    ∃ words, controlInputDataWords .ascii (.str "elevator") (.float (3 / 10)) = .ok words ∧
      (Faithful "elevator" (3 / 10) (Receiver.call .ascii
        ((Receiver.messageProcessor true .number).message .ascii words []) (.messageProcessor true .number)) ↔
        (Receiver.messageProcessor true .number).Understands (3 / 10)) := by
  have hvalue : InControlRange "elevator" (3 / 10) := by
    rw [InControlRange, if_neg (by decide)]
    norm_num
  exact faithful_iff_understands .ascii (by decide) hvalue _ []

/-- Three tenths of elevator are a fiftieth where the words come as integers. -/
theorem elevator_faint :
    controlInputDataWords .ascii (.str "elevator") (.float (3 / 10)) =
      .ok [formatBin 16 2, formatBin 16 650] ∧
    ¬Faithful "elevator" (3 / 10) (Receiver.call .ascii
      ((Receiver.flightControlSystem .number).message .ascii [formatBin 16 2, formatBin 16 650] [])
      (.flightControlSystem .number)) := by
  constructor
  · have hscaled : encodeControlValue (3 / 10) = 650 := by decide +kernel
    rw [controlInputDataWords_eq (show _ = some (2 : ℤ) from rfl), hscaled]
  · have hcall := @call_flightControlSystem_number .ascii [] "elevator" 2 650 (by decide) (by decide)
    intro h
    have hnear := (faithful_some "elevator" (3 / 10) ((650 : ℕ) / 32767)).mp (hcall ▸ h)
    obtain ⟨-, hbelow⟩ := abs_sub_le_iff.mp hnear
    push_cast at hbelow
    linarith

end Fmofp.FlightControl

/-! The flight control system as its commands see it: the mode and the control inputs, and what
`_handle_mode_change_sync` takes for the mode of a message. -/

namespace Fmofp.FlightControl

open Python

/-- `FlightControlModes.get_all_modes()`. -/
def allModes : List String :=
  ["NORMAL", "COMBAT", "PRECISION", "AUTOPILOT", "TERRAIN", "EMERGENCY"]

structure FlightControlSystem where
  mode : String
  updateInterval : ℚ
  controlInputs : Message

namespace FlightControlSystem

def initial : FlightControlSystem where
  mode := "NORMAL"
  updateInterval := 2 / 100
  controlInputs := [("aileron", .int 0), ("elevator", .int 0), ("rudder", .int 0),
    ("throttle", .float (1 / 2))]

variable (fcs : FlightControlSystem)

/-- `set_mode`, whose completion message changes nothing here. -/
def setMode (mode : Value) : Bool × FlightControlSystem :=
  match mode with
  | .str name =>
    if name ∉ allModes then (false, fcs)
    else if fcs.mode = name then (true, fcs)
    else (true, { fcs with
      mode := name
      updateInterval := if name = "COMBAT" then 1 / 100 else 2 / 100 })
  | _ => (false, fcs)

/-- `max(low, min(1.0, v))`, which keeps a value between them as it is. -/
def clampControl (low : ℚ) (v : Value) : Except Exception Value :=
  match v.number? with
  | none => .error .typeError
  | some q =>
    let (capped, top) := if q < 1 then (v, q) else (.float 1, 1)
    .ok (if low < top then capped else .float low)

def setControlInput (controlType value : Value) : Bool × FlightControlSystem :=
  match controlType with
  | .str name =>
    if Dict.has fcs.controlInputs name then
      match clampControl (if name = "throttle" then 0 else -1) value with
      | .ok v => (true, { fcs with controlInputs := Dict.set fcs.controlInputs name v })
      | .error _ => (false, fcs)
    else (false, fcs)
  | _ => (false, fcs)

/-- The mode of an integer, which the method writes out again. -/
def modeOfInteger (n : ℤ) : Value :=
  if n = 0 then .str "NORMAL"
  else if n = 1 then .str "COMBAT"
  else if n = 2 then .str "PRECISION"
  else if n = 3 then .str "AUTOPILOT"
  else if n = 4 then .str "TERRAIN"
  else if n = 5 then .str "EMERGENCY"
  else .none

/-- The mode in the data of a message. -/
def dataMode (attributes : Message) : Value :=
  match Dict.getD attributes "data" .none with
  | .str s => .str s
  | .list (.str s :: _) => .str s
  | .list (item :: _) => (item.int?.map modeOfInteger).getD .none
  | _ => .none

def handleModeChangeSync (attributes : Message) : Bool × FlightControlSystem :=
  let mode := orElse (orElse (dataMode attributes) (Dict.getD attributes "mode" .none))
    (metadataField attributes "mode")
  if mode = .none then (false, fcs) else setMode fcs mode

/-- A mode is set, and the call succeeds, exactly when it is the name of one; else nothing happens. -/
theorem setMode_cases (mode : Value) :
    (∃ name ∈ allModes, mode = .str name ∧ (fcs.setMode mode).1 = true ∧
      (fcs.setMode mode).2.mode = name) ∨
    (∀ name ∈ allModes, mode ≠ .str name) ∧ fcs.setMode mode = (false, fcs) := by
  cases mode with
  | str name =>
    by_cases hname : name ∈ allModes
    · refine .inl ⟨name, hname, rfl, ?_⟩
      unfold setMode
      by_cases hsame : fcs.mode = name
      · simp [hname, hsame]
      · simp [hname, hsame]
    · refine .inr ⟨fun other hother heq => ?_, by simp [setMode, hname]⟩
      cases heq
      exact hname hother
  | _ => exact .inr ⟨fun name _ => by simp, rfl⟩

/-- The integers that have a mode are those of the shared table. -/
theorem modeOfInteger_eq (n : ℤ) :
    modeOfInteger n = ((Dict.get? modeValueToName n).map Value.str).getD .none := by
  unfold modeOfInteger
  by_cases hrange : 0 ≤ n ∧ n ≤ 5
  · obtain ⟨hlow, hhigh⟩ := hrange
    interval_cases n <;> rfl
  · have hnone : Dict.get? modeValueToName n = none := by
      apply Dict.get?_eq_none
      intro e he heq
      have hkeys : ∀ e ∈ modeValueToName, 0 ≤ e.1 ∧ e.1 ≤ 5 := by decide
      exact hrange (heq ▸ hkeys e he)
    rw [hnone]
    split_ifs <;> first | omega | rfl

end FlightControlSystem

end Fmofp.FlightControl
