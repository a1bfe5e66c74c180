import Fmofp.Bus.WordCodec

/-! What the word decoders accept.  Every word that an encoder makes decodes to its fields, and with one bit
flipped it does not decode; but a decoder also accepts what no encoder makes, exactly when the text passes its
checks with a character that is no bit, or with reserved bits set. -/

namespace Fmofp.Bus

open Python

/-- The number of a field that its bits can hold. -/
def InWidth (width : ℕ) (n : ℤ) : Prop := 0 ≤ n ∧ n < 2 ^ width

instance (width : ℕ) (n : ℤ) : Decidable (InWidth width n) := inferInstanceAs (Decidable (_ ∧ _))

theorem InWidth.le {width : ℕ} {n m : ℤ} (h : InWidth width n) (hm : (2 : ℤ) ^ width = m + 1) :
    0 ≤ n ∧ n ≤ m := by
  obtain ⟨hnonneg, hlt⟩ := h
  rw [hm] at hlt
  exact ⟨hnonneg, by omega⟩

/-! ### Fields -/

section Fields

variable (py : Runtime)

theorem intBase10_bitChar (b : Bool) :
    py.intBase10 (String.ofList [bitChar b]) = .ok (if b then 1 else 0) := by
  cases b <;> rfl

theorem intBase10_bit {c : Char} (h : isBit c = true) :
    ∃ n : ℤ, py.intBase10 (String.ofList [c]) = .ok n ∧ InWidth 1 n ∧ toString n = String.ofList [c] := by
  have hc : c = '0' ∨ c = '1' := by simpa [isBit] using h
  rcases hc with rfl | rfl
  · exact ⟨0, rfl, by decide, rfl⟩
  · exact ⟨1, rfl, by decide, rfl⟩

/-- A field of bits is read as a number in its range that is written as these bits. -/
theorem readField_of_bits {width : ℕ} (hwidth : 0 < width) {cs : List Char} (hlength : cs.length = width)
    (hbits : ∀ c ∈ cs, isBit c = true) :
    ∃ n : ℤ, readField py width (String.ofList cs) = .ok n ∧ InWidth width n ∧
      fieldText width n = String.ofList cs := by
  unfold readField fieldText
  by_cases hone : width = 1
  · subst hone
    obtain ⟨c, rfl⟩ := List.length_eq_one_iff.mp hlength
    rw [if_pos rfl]
    obtain ⟨n, hread, hrange, htext⟩ := intBase10_bit py (hbits c List.mem_cons_self)
    exact ⟨n, hread, hrange, by rw [if_pos rfl, htext]⟩
  · have hlt := ofBits_lt cs
    rw [hlength] at hlt
    have hne : String.ofList cs ≠ "" := by
      intro hempty
      have hzero := congrArg String.length hempty
      rw [String.length_ofList, hlength] at hzero
      exact absurd hzero hwidth.ne'
    refine ⟨ofBits cs, ?_, ⟨by positivity, by exact_mod_cast hlt⟩, ?_⟩
    · rw [if_neg hone, py.intBase2_of_isBinary (isBinary_ofList.mpr hbits) hne, String.toList_ofList]
    · rw [if_neg hone, formatBin_of_lt hwidth hlt, ← hlength, bits_ofBits hbits]

/-- Bits in the widths of the layout are read as numbers in range that are written as these bits. -/
theorem decodeFields_of_bits {layout : Layout} (hlayout : ∀ e ∈ layout, 0 < e.2) {cs : List Char}
    (hlength : cs.length = (layout.map Prod.snd).sum) (hbits : ∀ c ∈ cs, isBit c = true) :
    ∃ ns, decodeFields py layout cs = .ok ns ∧ List.Forall₂ (fun e n => InWidth e.2 n) layout ns ∧
      (encodeFields layout ns).toList = cs := by
  induction layout generalizing cs with
  | nil =>
    rw [List.map_nil, List.sum_nil, List.length_eq_zero_iff] at hlength
    subst hlength
    exact ⟨[], rfl, .nil, rfl⟩
  | cons e layout ih =>
    obtain ⟨name, width⟩ := e
    rw [List.map_cons, List.sum_cons] at hlength
    have htake : (cs.take width).length = width := by
      rw [List.length_take]
      omega
    have hdrop : (cs.drop width).length = (layout.map Prod.snd).sum := by
      rw [List.length_drop]
      omega
    obtain ⟨n, hread, hrange, htext⟩ := readField_of_bits py (hlayout _ List.mem_cons_self) htake
      fun c hc => hbits c (List.mem_of_mem_take hc)
    obtain ⟨ns, hrest, hranges, htexts⟩ := ih (fun e he => hlayout e (List.mem_cons_of_mem _ he)) hdrop
      fun c hc => hbits c (List.mem_of_mem_drop hc)
    refine ⟨n :: ns, ?_, .cons hrange hranges, ?_⟩
    · rw [decodeFields, hread, hrest]
      rfl
    · rw [encodeFields, String.toList_append, htexts, htext, String.toList_ofList, List.take_append_drop]

/-- The field has as many characters as bits and is read as what was written. -/
structure Fits (width : ℕ) (n : ℤ) : Prop where
  length : (fieldText width n).length = width
  read : readField py width (fieldText width n) = .ok n

theorem fits_of_inWidth {width : ℕ} (hwidth : 0 < width) {n : ℤ} (h : InWidth width n) : Fits py width n := by
  obtain ⟨hnonneg, hlt⟩ := h
  obtain ⟨n, rfl⟩ := Int.eq_ofNat_of_zero_le hnonneg
  have hlt' : n < 2 ^ width := by exact_mod_cast hlt
  by_cases hone : width = 1
  · subst hone
    interval_cases n
    · exact ⟨rfl, rfl⟩
    · exact ⟨rfl, rfl⟩
  · constructor
    · rw [fieldText, if_neg hone, formatBin_of_lt hwidth hlt', String.length_ofList, bits_length]
    · rw [readField, fieldText, if_neg hone, if_neg hone, py.intBase2_formatBin hwidth hlt']

/-- What fits is read back. -/
theorem decodeFields_encodeFields {layout : Layout} {ns : List ℤ}
    (h : List.Forall₂ (fun e n => Fits py e.2 n) layout ns) :
    decodeFields py layout (encodeFields layout ns).toList = .ok ns ∧
      (encodeFields layout ns).length = (layout.map Prod.snd).sum := by
  induction h with
  | nil => exact ⟨rfl, rfl⟩
  | @cons e n layout ns hfits _ ih =>
    obtain ⟨name, width⟩ := e
    have hlength : (fieldText width n).toList.length = width := by
      rw [String.length_toList]
      exact hfits.length
    constructor
    · rw [encodeFields, String.toList_append, decodeFields, List.take_left' hlength, List.drop_left' hlength,
        String.ofList_toList, hfits.read, ih.1]
      rfl
    · rw [encodeFields, String.length_append, ih.2, hfits.length, List.map_cons, List.sum_cons]

/-- Fields in range are written in bits. -/
theorem isBinary_encodeFields {layout : Layout} (hlayout : ∀ e ∈ layout, 0 < e.2) {ns : List ℤ}
    (h : List.Forall₂ (fun e n => InWidth e.2 n) layout ns) : ∀ c ∈ (encodeFields layout ns).toList, isBit c = true := by
  induction h with
  | nil => simp [encodeFields]
  | @cons e n layout ns hrange _ ih =>
    obtain ⟨name, width⟩ := e
    intro c hc
    rw [encodeFields, String.toList_append, List.mem_append] at hc
    rcases hc with hc | hc
    · obtain ⟨hnonneg, hlt⟩ := hrange
      obtain ⟨n, rfl⟩ := Int.eq_ofNat_of_zero_le hnonneg
      have hlt' : n < 2 ^ width := by exact_mod_cast hlt
      by_cases hone : width = 1
      · subst hone
        have hbit : n = 0 ∨ n = 1 := by omega
        rcases hbit with rfl | rfl
        · rw [show (fieldText 1 ((0 : ℕ) : ℤ)).toList = ['0'] from rfl, List.mem_singleton] at hc
          rw [hc]
          rfl
        · rw [show (fieldText 1 ((1 : ℕ) : ℤ)).toList = ['1'] from rfl, List.mem_singleton] at hc
          rw [hc]
          rfl
      · rw [fieldText, if_neg hone, formatBin_of_lt (hlayout _ List.mem_cons_self) hlt', String.toList_ofList] at hc
        exact isBit_of_mem_bits hc
    · exact ih (fun e he => hlayout e (List.mem_cons_of_mem _ he)) c hc

end Fields

/-! ### Whole words -/

section Words

variable (py : Runtime)

theorem completed_eq_ok {body word : String} (h : completed body = .ok word) :
    word.toList = withParity body.toList ∧ body.length = 19 := by
  unfold completed at h
  dsimp only at h
  split_ifs at h with hlength
  cases h
  rw [String.length_ofList, withParity, List.length_append, List.length_singleton, String.length_toList] at hlength
  exact ⟨String.toList_ofList, by omega⟩

theorem completed_of_length {body : String} (h : body.length = 19) :
    completed body = .ok (String.ofList (withParity body.toList)) := by
  unfold completed
  dsimp only
  rw [if_pos]
  rw [String.length_ofList, withParity, List.length_append, List.length_singleton, String.length_toList, h]

theorem intBase10_parity (body : List Char) :
    ∃ p : ℤ, py.intBase10 (String.ofList [calculateParity body]) = .ok p ∧ (p = 0 ∨ p = 1) ∧
      (body.count '1' + p) % 2 = 1 := by
  unfold calculateParity
  split_ifs with heven
  · exact ⟨1, rfl, .inr rfl, by omega⟩
  · exact ⟨0, rfl, .inl rfl, by omega⟩

/-- The parts of a word of nineteen characters and a last one. -/
theorem take_drop_concat {body : List Char} (h : body.length = 19) (c : Char) :
    (body ++ [c]).take 19 = body ∧ (body ++ [c]).drop 19 = [c] ∧ (body ++ [c]).length = 20 :=
  ⟨List.take_left' h, List.drop_left' h, by rw [List.length_append, h]; rfl⟩

/-- Nineteen characters and a parity that is read as a number. -/
theorem decodeWord_concat {sync : List Char} (layout : Layout) {body : List Char} (hlength : body.length = 19)
    (hsync : body.take 3 = sync) {c : Char} {p : ℤ} (hp : py.intBase10 (String.ofList [c]) = .ok p) {word : String}
    (hword : word.toList = body ++ [c]) :
    decodeWord py sync layout word =
      if (body.count '1' + p) % 2 = 1 then
        (decodeFields py layout (body.drop 3)).map fun ns => ⟨sync, (layout.map Prod.fst).zip ns, p⟩
      else .error .valueError := by
  obtain ⟨htake, hdrop, htotal⟩ := take_drop_concat hlength c
  have hfirst : (body ++ [c]).take 3 = sync := by
    rw [List.take_append_of_le_length (by omega), hsync]
  unfold decodeWord validateParity
  simp only [hword, htake, hdrop, htotal, hp, hfirst, ne_eq, not_true_eq_false, if_false, bind, Except.bind, pure,
    Except.pure]
  by_cases hodd : (body.count '1' + p) % 2 = 1
  · rw [if_pos hodd]
    simp only [hodd, decide_true, Bool.true_eq_false, if_false]
    cases decodeFields py layout (body.drop 3) <;> rfl
  · rw [if_neg hodd]
    simp only [hodd, decide_false, if_true]

/-- A word that an encoder has completed is decoded to the fields that were put in. -/
theorem decodeWord_completed {sync : List Char} (hsync : sync.length = 3) {layout : Layout} {ns : List ℤ}
    (hfits : List.Forall₂ (fun e n => Fits py e.2 n) layout ns) {word : String}
    (hword : completed (String.ofList sync ++ encodeFields layout ns) = .ok word) :
    ∃ p, decodeWord py sync layout word = .ok ⟨sync, (layout.map Prod.fst).zip ns, p⟩ := by
  obtain ⟨hchars, hlength⟩ := completed_eq_ok hword
  rw [withParity] at hchars
  set body := (String.ofList sync ++ encodeFields layout ns).toList with hbody
  have hbodyEq : body = sync ++ (encodeFields layout ns).toList := by
    rw [hbody, String.toList_append, String.toList_ofList]
  have hbodyLength : body.length = 19 := by
    rw [hbody, String.length_toList, hlength]
  obtain ⟨p, hp, -, hodd⟩ := intBase10_parity py body
  refine ⟨p, ?_⟩
  rw [decodeWord_concat py layout hbodyLength (by rw [hbodyEq, List.take_left' hsync]) hp hchars, if_pos hodd,
    hbodyEq, List.drop_left' hsync, (decodeFields_encodeFields py hfits).1]
  rfl

/-- One bit is the other one in the second word. -/
def Flips (word word' : String) : Prop :=
  ∃ before b after, word.toList = before ++ bitChar b :: after ∧ word'.toList = before ++ bitChar (!b) :: after

/-- A flipped bit of the body changes its parity. -/
theorem count_flipped (before after : List Char) (b : Bool) :
    (before ++ bitChar (!b) :: after).count '1' % 2 ≠ (before ++ bitChar b :: after).count '1' % 2 := by
  cases b <;> simp [bitChar, List.count_append] <;> omega

/-- What is known of a word that is decoded. -/
theorem decodeWord_eq_ok {sync : List Char} {layout : Layout} {word : String} {r : Record}
    (h : decodeWord py sync layout word = .ok r) :
    ∃ body c p ns, word.toList = body ++ [c] ∧ body.length = 19 ∧ body.take 3 = sync ∧
      py.intBase10 (String.ofList [c]) = .ok p ∧ (body.count '1' + p) % 2 = 1 ∧
      decodeFields py layout (body.drop 3) = .ok ns ∧ r = ⟨sync, (layout.map Prod.fst).zip ns, p⟩ := by
  have hlength : word.toList.length = 20 := by
    by_contra hne
    unfold decodeWord at h
    dsimp only at h
    rw [if_pos hne] at h
    cases h
  obtain ⟨body, c, hword⟩ : ∃ body c, word.toList = body ++ [c] := by
    rcases List.eq_nil_or_concat word.toList with hnil | ⟨body, c, hword⟩
    · rw [hnil] at hlength
      exact absurd hlength (by decide)
    · exact ⟨body, c, by rw [hword, List.concat_eq_append]⟩
  have hbody : body.length = 19 := by
    rw [hword, List.length_append, List.length_singleton] at hlength
    omega
  obtain ⟨htake, hdrop, -⟩ := take_drop_concat hbody c
  have hsync : body.take 3 = sync := by
    by_contra hne
    unfold decodeWord at h
    dsimp only at h
    rw [if_neg (not_not.mpr hlength), if_pos (by
      rw [hword, List.take_append_of_le_length (by omega)]
      exact hne)] at h
    cases h
  cases hp : py.intBase10 (String.ofList [c]) with
  | error e =>
    unfold decodeWord validateParity at h
    simp only [hword, hdrop, hp, bind, Except.bind] at h
    split_ifs at h
  | ok p =>
    rw [decodeWord_concat py layout hbody hsync hp hword] at h
    split_ifs at h with hodd
    cases hfields : decodeFields py layout (body.drop 3) with
    | error e =>
      rw [hfields] at h
      cases h
    | ok ns =>
      rw [hfields] at h
      cases h
      exact ⟨body, c, p, ns, hword, hbody, hsync, hp, hodd, hfields, rfl⟩

/-- A completed word with one bit flipped is not decoded. -/
theorem decodeWord_flipped {sync : List Char} {layout : Layout} {body : List Char} {word word' : String}
    (hword : word.toList = withParity body) (hflip : Flips word word') (r : Record) :
    decodeWord py sync layout word' ≠ .ok r := by
  intro hok
  obtain ⟨before, b, after, hold, hnew⟩ := hflip
  obtain ⟨body', c', p', ns, hword', -, -, hp', hodd', -, -⟩ := decodeWord_eq_ok py hok
  obtain ⟨p, hp, hrange, hodd⟩ := intBase10_parity py body
  rw [hword, withParity] at hold
  rw [hword'] at hnew
  rcases List.eq_nil_or_concat after with rfl | ⟨after, c, rfl⟩
  · -- the parity bit itself: the number of ones in the body is the same
    obtain ⟨rfl, hparity⟩ := List.append_inj' hold rfl
    obtain ⟨rfl, hflipped⟩ := List.append_inj' hnew rfl
    rw [hparity, intBase10_bitChar] at hp
    rw [hflipped, intBase10_bitChar] at hp'
    have hvalue := Except.ok.inj hp
    have hvalue' := Except.ok.inj hp'
    cases b <;> simp only [Bool.not_true, Bool.not_false, if_true, if_false, Bool.false_eq_true] at hvalue hvalue' <;>
      omega
  · -- a bit of the body: the parity bit is the same
    rw [List.concat_eq_append, ← List.cons_append, ← List.append_assoc] at hold hnew
    obtain ⟨rfl, hparity⟩ := List.append_inj' hold rfl
    obtain ⟨rfl, hsame⟩ := List.append_inj' hnew rfl
    rw [hparity] at hp
    rw [hsame, hp] at hp'
    cases hp'
    have hcount := count_flipped before after b
    omega

end Words

/-! ### The words of the bus -/

/-- The words of the bus. -/
inductive Kind where
  | command
  | status
  | data
  deriving DecidableEq

namespace Kind

def sync : Kind → List Char
  | .command | .status => commandSync
  | .data => dataSync

def layout : Kind → Layout
  | .command => commandLayout
  | .status => statusLayout
  | .data => dataLayout

theorem sync_length (kind : Kind) : kind.sync.length = 3 := by cases kind <;> rfl

theorem layout_pos (kind : Kind) : ∀ e ∈ kind.layout, 0 < e.2 := by cases kind <;> decide

theorem layout_sum (kind : Kind) : (kind.layout.map Prod.snd).sum = 16 := by cases kind <;> rfl

end Kind

/-- The two ends of the bus. -/
inductive Station where
  | busController
  | remoteTerminal
  deriving DecidableEq

namespace Station

/-- The text that the decoder takes for the word. -/
def text (py : Runtime) (kind : Kind) (word : String) : Station → Except Exception String
  | .remoteTerminal => .ok (stripListMarks word)
  | .busController => match kind with
    | .command | .status => BCDecoders.firstWord py word
    | .data => BCDecoders.dataWord py word

def decode (py : Runtime) (kind : Kind) (word : String) : Station → Except Exception Record
  | .remoteTerminal => match kind with
    | .command => RTWordsDecoder.decodeCommandWord py word
    | .status => RTWordsDecoder.decodeStatusWord py word
    | .data => RTWordsDecoder.decodeDataWord py word
  | .busController => match kind with
    | .command => BCDecoders.decodeCommandWord py word
    | .status => BCDecoders.decodeStatusWord py word
    | .data => BCDecoders.decodeDataWord py word

/-- The encoder of the words of the kind: commands are encoded by the bus controller only, status words by the
remote terminal only. -/
def encode (py : Runtime) (kind : Kind) (fields : Dict String ℤ) (station : Station) :
    Except Exception String :=
  let field (name : String) : ℤ := Dict.getD fields name 0
  match kind, station with
  | .command, _ => BCWordsEncoder.encodeCommandWord (field "rt_address") (field "tr_bit") (field "subaddress_mode")
      (field "word_count_mode")
  | .status, _ => RTWordsEncoder.encodeStatusWord py (.int (field "rt_address")) (field "message_error")
      (field "instrumentation") (field "service_request") (field "broadcast_cmd") (field "busy")
      (field "subsystem_flag") (field "dynamic_bus_control") (field "terminal_flag")
  | .data, .busController => BCWordsEncoder.encodeDataWord (field "data")
  | .data, .remoteTerminal => RTWordsEncoder.encodeDataWord py (.int (field "data"))

theorem decode_eq (py : Runtime) (kind : Kind) (word : String) (station : Station) :
    station.decode py kind word = station.text py kind word >>= decodeWord py kind.sync kind.layout := by
  have hbind (s : String) (f : String → Except Exception Record) : (Except.ok s >>= f) = f s := rfl
  cases station with
  | remoteTerminal =>
    rw [text, hbind]
    cases kind with
    | command => rw [decode, RTWordsDecoder.decodeCommandWord, Kind.sync, Kind.layout]
    | status => rw [decode, RTWordsDecoder.decodeStatusWord, Kind.sync, Kind.layout]
    | data => rw [decode, RTWordsDecoder.decodeDataWord, Kind.sync, Kind.layout]
  | busController =>
    cases kind with
    | command => rw [decode, text, BCDecoders.decodeCommandWord, Kind.sync, Kind.layout]
    | status => rw [decode, text, BCDecoders.decodeStatusWord, Kind.sync, Kind.layout]
    | data => rw [decode, text, BCDecoders.decodeDataWord, Kind.sync, Kind.layout]

end Station

/-- The values that the encoder of the kind writes: of a status word the reserved bits are zero. -/
def Kind.values (fields : Dict String ℤ) (kind : Kind) : List ℤ :=
  kind.layout.map fun e => if e.1 = "reserved" then 0 else Dict.getD fields e.1 0

/-- What the encoders have in common. -/
theorem Station.encode_eq_ok {py : Runtime} {kind : Kind} {fields : Dict String ℤ} {station : Station}
    {word : String} (h : station.encode py kind fields = .ok word) :
    completed (String.ofList kind.sync ++ encodeFields kind.layout (kind.values fields)) = .ok word ∧
      ∀ e ∈ kind.layout, e.2 ≠ 1 → InWidth e.2 (if e.1 = "reserved" then 0 else Dict.getD fields e.1 0) := by
  cases kind with
  | command =>
    have hall : BCWordsEncoder.encodeCommandWord (Dict.getD fields "rt_address" 0) (Dict.getD fields "tr_bit" 0)
      (Dict.getD fields "subaddress_mode" 0) (Dict.getD fields "word_count_mode" 0) = .ok word := h
    unfold BCWordsEncoder.encodeCommandWord at hall
    split_ifs at hall with hrt htr hsub hcount
    refine ⟨hall, fun e he hwide => ?_⟩
    simp only [Kind.layout, commandLayout, List.mem_cons, List.not_mem_nil, or_false] at he
    rcases he with rfl | rfl | rfl | rfl
    · exact ⟨hrt.1, by have := hrt.2; norm_num; omega⟩
    · exact absurd rfl hwide
    · exact ⟨hsub.1, by have := hsub.2; norm_num; omega⟩
    · exact ⟨hcount.1, by have := hcount.2; norm_num; omega⟩
  | status =>
    have hall : (if ¬(0 ≤ Dict.getD fields "rt_address" 0 ∧ Dict.getD fields "rt_address" 0 ≤ 31) then
        Except.error Exception.valueError
      else completed ("100" ++ encodeFields statusLayout _)) = .ok word := h
    split_ifs at hall with hrt
    refine ⟨hall, fun e he hwide => ?_⟩
    simp only [Kind.layout, statusLayout, List.mem_cons, List.not_mem_nil, or_false] at he
    rcases he with rfl | rfl | rfl | rfl | rfl | rfl | rfl | rfl | rfl | rfl
    · exact ⟨hrt.1, by have := hrt.2; norm_num; omega⟩
    · exact absurd rfl hwide
    · exact absurd rfl hwide
    · exact absurd rfl hwide
    · exact ⟨le_refl _, by norm_num⟩
    all_goals exact absurd rfl hwide
  | data =>
    have hall : encodeData (Dict.getD fields "data" 0) = .ok word := by
      cases station <;> exact h
    unfold encodeData at hall
    split_ifs at hall with hdata
    refine ⟨hall, fun e he hwide => ?_⟩
    simp only [Kind.layout, dataLayout, List.mem_cons, List.not_mem_nil, or_false] at he
    subst he
    exact ⟨hdata.1, by have := hdata.2; norm_num; omega⟩

theorem Station.encode_of_inWidth (py : Runtime) {kind : Kind} {fields : Dict String ℤ} (station : Station)
    (h : ∀ e ∈ kind.layout, InWidth e.2 (if e.1 = "reserved" then 0 else Dict.getD fields e.1 0)) :
    station.encode py kind fields =
      completed (String.ofList kind.sync ++ encodeFields kind.layout (kind.values fields)) := by
  cases kind with
  | command =>
    have hrt : InWidth 5 (Dict.getD fields "rt_address" 0) := h ("rt_address", 5) (by decide)
    have htr : InWidth 1 (Dict.getD fields "tr_bit" 0) := h ("tr_bit", 1) (by decide)
    have hsub : InWidth 5 (Dict.getD fields "subaddress_mode" 0) := h ("subaddress_mode", 5) (by decide)
    have hcount : InWidth 5 (Dict.getD fields "word_count_mode" 0) := h ("word_count_mode", 5) (by decide)
    have hrange := hrt.le (m := 31) rfl
    have htrRange := htr.le (m := 1) rfl
    have hsubRange := hsub.le (m := 31) rfl
    have hcountRange := hcount.le (m := 31) rfl
    show BCWordsEncoder.encodeCommandWord (Dict.getD fields "rt_address" 0) (Dict.getD fields "tr_bit" 0)
      (Dict.getD fields "subaddress_mode" 0) (Dict.getD fields "word_count_mode" 0) = _
    unfold BCWordsEncoder.encodeCommandWord
    rw [if_neg (by omega), if_neg (by omega), if_neg (by omega), if_neg (by omega)]
    rfl
  | status =>
    have hrt : InWidth 5 (Dict.getD fields "rt_address" 0) := h ("rt_address", 5) (by decide)
    have hrange := hrt.le (m := 31) rfl
    show (if ¬(0 ≤ Dict.getD fields "rt_address" 0 ∧ Dict.getD fields "rt_address" 0 ≤ 31) then
      Except.error Exception.valueError else completed ("100" ++ encodeFields statusLayout _)) = _
    rw [if_neg (by omega)]
    rfl
  | data =>
    have hdata : InWidth 16 (Dict.getD fields "data" 0) := h ("data", 16) (by decide)
    have hrange := hdata.le (m := 65535) rfl
    have hencode : station.encode py .data fields = encodeData (Dict.getD fields "data" 0) := by
      cases station <;> rfl
    rw [hencode, encodeData, if_neg (by omega)]
    rfl

/-! ### Encoded words -/

theorem length_toString_pos (n : ℤ) : 0 < (toString n).length := by
  cases n with
  | ofNat n => exact Nat.length_repr_pos
  | negSucc n =>
    show 0 < ("-" ++ (n + 1).repr).length
    rw [String.length_append]
    exact Nat.add_pos_left (by decide) _

/-- A number of one character is read as a decimal digit. -/
theorem intBase10_toString (py : Runtime) {n : ℤ} (h : (toString n).length = 1) :
    py.intBase10 (toString n) = .ok n := by
  cases n with
  | ofNat n =>
    have hdigit : n < 10 ^ 1 := (Nat.length_repr_le_iff (by decide)).mp (le_of_eq h)
    interval_cases n <;> rfl
  | negSucc n =>
    have hlong : ("-" ++ (n + 1).repr).length = 1 := h
    have hpos : 0 < (n + 1).repr.length := Nat.length_repr_pos
    rw [String.length_append, show "-".length = 1 from rfl] at hlong
    omega

/-- Numbers that are not smaller than others and have the same sum are equal to them. -/
theorem eq_of_sum_eq {α : Type} {l : List α} {f g : α → ℕ} (hle : ∀ x ∈ l, f x ≤ g x)
    (hsum : (l.map g).sum = (l.map f).sum) : ∀ x ∈ l, g x = f x := by
  induction l with
  | nil => simp
  | cons y l ih =>
    have hrest : (l.map f).sum ≤ (l.map g).sum :=
      List.sum_le_sum fun x hx => hle x (List.mem_cons_of_mem _ hx)
    have hy := hle y List.mem_cons_self
    rw [List.map_cons, List.map_cons, List.sum_cons, List.sum_cons] at hsum
    intro x hx
    rcases List.mem_cons.mp hx with rfl | hx
    · omega
    · exact ih (fun x hx => hle x (List.mem_cons_of_mem _ hx)) (by omega) x hx

theorem length_encodeFields_map (layout : Layout) (g : String × ℕ → ℤ) :
    (encodeFields layout (layout.map g)).length = (layout.map fun e => (fieldText e.2 (g e)).length).sum := by
  induction layout with
  | nil => rfl
  | cons e layout ih => rw [List.map_cons, encodeFields, String.length_append, ih, List.map_cons, List.sum_cons]

/-- The values of an encoded word fit their fields: a flag is one character long because the word is twenty. -/
theorem Station.fits_of_encode {py : Runtime} {kind : Kind} {fields : Dict String ℤ} {station : Station}
    {word : String} (h : station.encode py kind fields = .ok word) :
    List.Forall₂ (fun e n => Fits py e.2 n) kind.layout (kind.values fields) := by
  obtain ⟨hcompleted, hwide⟩ := Station.encode_eq_ok h
  obtain ⟨-, hlength⟩ := completed_eq_ok hcompleted
  rw [String.length_append, String.length_ofList, kind.sync_length] at hlength
  unfold Kind.values at hlength ⊢
  generalize hg : (fun e : String × ℕ => if e.1 = "reserved" then (0 : ℤ) else Dict.getD fields e.1 0) = g at *
  have hwide' : ∀ e ∈ kind.layout, e.2 ≠ 1 → InWidth e.2 (g e) := by
    subst hg
    exact hwide
  rw [length_encodeFields_map] at hlength
  have hsum : (kind.layout.map fun e => (fieldText e.2 (g e)).length).sum = (kind.layout.map Prod.snd).sum := by
    rw [kind.layout_sum]
    omega
  have hle : ∀ e ∈ kind.layout, e.2 ≤ (fieldText e.2 (g e)).length := by
    intro e he
    by_cases hone : e.2 = 1
    · rw [fieldText, if_pos hone, hone]
      exact length_toString_pos (g e)
    · exact (fits_of_inWidth py (kind.layout_pos e he) (hwide' e he hone)).length.ge
  have hexact := eq_of_sum_eq hle hsum
  rw [List.forall₂_map_right_iff, List.forall₂_same]
  intro e he
  by_cases hone : e.2 = 1
  · have hlen := hexact e he
    refine ⟨hlen, ?_⟩
    rw [fieldText, if_pos hone, hone] at hlen
    rw [readField, fieldText, if_pos hone, if_pos hone, intBase10_toString py hlen]
  · exact fits_of_inWidth py (kind.layout_pos e he) (hwide' e he hone)

/-- A text that both ends take for a word as it is. -/
structure Plain (word : String) : Prop where
  first : ∃ c rest, word.toList = c :: rest ∧ isListMark c = false
  last : ∃ rest c, word.toList = rest ++ [c] ∧ isListMark c = false

theorem stripListMarks_of_plain {word : String} (h : Plain word) : stripListMarks word = word := by
  obtain ⟨c, rest, hfirst, hc⟩ := h.first
  obtain ⟨init, d, hlast, hd⟩ := h.last
  have hfront : word.toList.dropWhile isListMark = word.toList := by
    rw [hfirst, List.dropWhile_cons_of_neg (by rw [hc]; exact Bool.false_ne_true)]
  have hback : word.toList.reverse.dropWhile isListMark = word.toList.reverse := by
    rw [hlast, List.reverse_append, List.reverse_singleton, List.singleton_append,
      List.dropWhile_cons_of_neg (by rw [hd]; exact Bool.false_ne_true)]
  rw [stripListMarks, hfront, hback, List.reverse_reverse, String.ofList_toList]

theorem Station.text_of_plain (py : Runtime) (kind : Kind) (station : Station) {word : String} (h : Plain word) :
    station.text py kind word = .ok word := by
  cases station with
  | remoteTerminal => rw [text, stripListMarks_of_plain h]
  | busController =>
    obtain ⟨c, rest, hfirst, hc⟩ := h.first
    have hopen : startsWith word "[" = false := by
      rw [startsWith, hfirst]
      show (List.isPrefixOf ['['] (c :: rest)) = false
      rw [List.isPrefixOf_cons_cons, List.isPrefixOf_nil_left, Bool.and_true]
      simp only [isListMark, Bool.or_eq_false_iff] at hc
      rw [Bool.beq_comm]
      exact hc.1.1
    have hparse : BCDecoders.parseRawData py word = .ok [.str word] := by
      rw [BCDecoders.parseRawData, hopen, Bool.false_and, if_neg Bool.false_ne_true]
    have hone : BCDecoders.firstWord py word = .ok word := by
      rw [BCDecoders.firstWord, hparse]
      rfl
    have hdata : BCDecoders.dataWord py word = .ok word := by
      rw [BCDecoders.dataWord, hparse]
      rfl
    cases kind with
    | command => exact hone
    | status => exact hone
    | data => exact hdata

theorem not_isListMark_bitChar (b : Bool) : isListMark (bitChar b) = false := by cases b <;> rfl

theorem not_isListMark_parity (body : List Char) : isListMark (calculateParity body) = false := by
  unfold calculateParity
  split_ifs <;> rfl

theorem plain_of_completed {kind : Kind} {text word : String}
    (h : completed (String.ofList kind.sync ++ text) = .ok word) : Plain word := by
  obtain ⟨hchars, -⟩ := completed_eq_ok h
  rw [withParity] at hchars
  refine ⟨?_, ⟨_, _, hchars, not_isListMark_parity _⟩⟩
  rw [String.toList_append, String.toList_ofList] at hchars
  cases kind with
  | command => exact ⟨_, _, hchars, rfl⟩
  | status => exact ⟨_, _, hchars, rfl⟩
  | data => exact ⟨_, _, hchars, rfl⟩

theorem Plain.flipped {word word' : String} (h : Plain word) (hflip : Flips word word') : Plain word' := by
  obtain ⟨before, b, after, hold, hnew⟩ := hflip
  constructor
  · cases before with
    | nil => exact ⟨_, _, hnew, not_isListMark_bitChar (!b)⟩
    | cons c before =>
      obtain ⟨d, rest, hfirst, hd⟩ := h.first
      rw [hold] at hfirst
      cases hfirst
      exact ⟨_, _, hnew, hd⟩
  · rcases List.eq_nil_or_concat after with rfl | ⟨after, c, rfl⟩
    · exact ⟨_, _, hnew, not_isListMark_bitChar (!b)⟩
    · obtain ⟨init, d, hlast, hd⟩ := h.last
      rw [hold, List.concat_eq_append, ← List.cons_append, ← List.append_assoc] at hlast
      obtain ⟨-, hcd⟩ := List.append_inj' hlast rfl
      rw [List.concat_eq_append, ← List.cons_append, ← List.append_assoc] at hnew
      refine ⟨_, c, hnew, ?_⟩
      rw [List.singleton_inj.mp hcd]
      exact hd

/-- An encoded word is decoded to what was put in. -/
theorem Station.decode_encoded {py : Runtime} {kind : Kind} {fields : Dict String ℤ} {encoder : Station}
    {word : String} (h : encoder.encode py kind fields = .ok word) (station : Station) :
    ∃ p, station.decode py kind word = .ok ⟨kind.sync, (kind.layout.map Prod.fst).zip (kind.values fields), p⟩ := by
  obtain ⟨hcompleted, -⟩ := Station.encode_eq_ok h
  obtain ⟨p, hp⟩ := decodeWord_completed py kind.sync_length (Station.fits_of_encode h) hcompleted
  exact ⟨p, by rw [Station.decode_eq, Station.text_of_plain py kind station (plain_of_completed hcompleted)]; exact hp⟩

theorem Station.decode_flipped {py : Runtime} {kind : Kind} {fields : Dict String ℤ} {encoder : Station}
    {word word' : String} (h : encoder.encode py kind fields = .ok word) (hflip : Flips word word')
    (station : Station) (r : Record) : station.decode py kind word' ≠ .ok r := by
  obtain ⟨hcompleted, -⟩ := Station.encode_eq_ok h
  have hplain := (plain_of_completed hcompleted).flipped hflip
  rw [Station.decode_eq, Station.text_of_plain py kind station hplain]
  exact decodeWord_flipped py (completed_eq_ok hcompleted).1 hflip r

/-! ### Accepted texts -/

/-- The texts of the fields, with their widths. -/
def pieces : Layout → List Char → List (ℕ × String)
  | [], _ => []
  | (_, width) :: layout, cs => (width, String.ofList (cs.take width)) :: pieces layout (cs.drop width)

theorem exists_decodeFields_iff (py : Runtime) (layout : Layout) (cs : List Char) :
    (∃ ns, decodeFields py layout cs = .ok ns) ↔
      ∀ piece ∈ pieces layout cs, ∃ n, readField py piece.1 piece.2 = .ok n := by
  induction layout generalizing cs with
  | nil => simp [decodeFields, pieces]
  | cons e layout ih =>
    obtain ⟨name, width⟩ := e
    rw [pieces, List.forall_mem_cons, ← ih, decodeFields]
    cases readField py width (String.ofList (cs.take width)) with
    | error e => simp [bind, Except.bind]
    | ok n => cases decodeFields py layout (cs.drop width) <;> simp [bind, Except.bind, pure, Except.pure]

/-- The checks of the decoders: length, sync pattern, odd parity, and a number in each field for `int`. -/
structure Passes (py : Runtime) (kind : Kind) (text : String) : Prop where
  length : text.toList.length = 20
  sync : text.toList.take 3 = kind.sync
  parity : ∃ p, py.intBase10 (String.ofList (text.toList.drop 19)) = .ok p ∧
    ((text.toList.take 19).count '1' + p) % 2 = 1
  fields : ∀ piece ∈ pieces kind.layout ((text.toList.take 19).drop 3), ∃ n, readField py piece.1 piece.2 = .ok n

theorem passes_iff (py : Runtime) (kind : Kind) (text : String) :
    Passes py kind text ↔ ∃ r, decodeWord py kind.sync kind.layout text = .ok r := by
  constructor
  · rintro ⟨hlength, hsync, ⟨p, hp, hodd⟩, hfields⟩
    obtain ⟨ns, hns⟩ := (exists_decodeFields_iff py _ _).mpr hfields
    refine ⟨⟨kind.sync, (kind.layout.map Prod.fst).zip ns, p⟩, ?_⟩
    unfold decodeWord validateParity
    simp only [hlength, hsync, hp, hodd, hns, ne_eq, not_true_eq_false, if_false, bind, Except.bind, pure, Except.pure,
      decide_true, Bool.true_eq_false]
  · rintro ⟨r, hr⟩
    obtain ⟨body, c, p, ns, hword, hbody, hsync, hp, hodd, hns, -⟩ := decodeWord_eq_ok py hr
    obtain ⟨htake, hdrop, htotal⟩ := take_drop_concat hbody c
    refine ⟨by rw [hword, htotal], ?_, ⟨p, ?_, ?_⟩, ?_⟩
    · rw [hword, List.take_append_of_le_length (by omega), hsync]
    · rw [hword, hdrop, hp]
    · rw [hword, htake, hodd]
    · rw [hword, htake]
      exact (exists_decodeFields_iff py _ _).mp ⟨ns, hns⟩

/-- A text of bits, and of a status word with the reserved ones zero. -/
def Canonical (kind : Kind) (text : String) : Prop :=
  isBinary text = true ∧ (kind = .status → slice text 11 14 = "000")

/-- Every field lies in its range of bits. -/
structure Record.InRange (kind : Kind) (r : Record) : Prop where
  sync : r.sync = kind.sync
  parity : r.parity = 0 ∨ r.parity = 1
  fields : ∀ e ∈ kind.layout, ∃ n, Dict.get? r.fields e.1 = some n ∧ InWidth e.2 n

/-- The names of a layout with values of its fields. -/
theorem get?_zip {R : String × ℕ → ℤ → Prop} {layout : Layout} {ns : List ℤ} (h : List.Forall₂ R layout ns)
    (hnames : (layout.map Prod.fst).Nodup) :
    (∀ e ∈ layout, ∃ n, Dict.get? ((layout.map Prod.fst).zip ns) e.1 = some n ∧ R e n) ∧
      (layout.map fun e => Dict.getD ((layout.map Prod.fst).zip ns) e.1 0) = ns := by
  induction h with
  | nil => simp
  | @cons e n layout ns hR _ ih =>
    rw [List.map_cons, List.nodup_cons] at hnames
    obtain ⟨ihget, ihmap⟩ := ih hnames.2
    have hother : ∀ e' ∈ layout, Dict.get? (((e :: layout).map Prod.fst).zip (n :: ns)) e'.1 =
        Dict.get? ((layout.map Prod.fst).zip ns) e'.1 := by
      intro e' he'
      rw [List.map_cons, List.zip_cons_cons, Dict.get?_cons, if_neg]
      intro heq
      exact hnames.1 (heq ▸ List.mem_map_of_mem he')
    have hself : Dict.get? (((e :: layout).map Prod.fst).zip (n :: ns)) e.1 = some n := by
      rw [List.map_cons, List.zip_cons_cons, Dict.get?_cons, if_pos rfl]
    constructor
    · intro e' he'
      rcases List.mem_cons.mp he' with rfl | he'
      · exact ⟨n, hself, hR⟩
      · rw [hother e' he']
        exact ihget e' he'
    · rw [List.map_cons]
      congr 1
      · rw [Dict.getD_of_get? hself]
      · conv_rhs => rw [← ihmap]
        refine List.map_congr_left fun e' he' => ?_
        rw [Dict.getD, hother e' he', Dict.getD]

theorem Kind.names_nodup (kind : Kind) : (kind.layout.map Prod.fst).Nodup := by cases kind <;> decide

/-- The reserved bits of a status word are the text of its fifth field. -/
theorem slice_reserved {py : Runtime} {g : String × ℕ → ℤ} (hfits : ∀ e ∈ statusLayout, Fits py e.2 (g e))
    {text : String} {c : Char} (htext : text.toList = commandSync ++ (encodeFields statusLayout (statusLayout.map g)).toList ++ [c]) :
    slice text 11 14 = fieldText 3 (g ("reserved", 3)) := by
  have hlength (e : String × ℕ) (he : e ∈ statusLayout) : (fieldText e.2 (g e)).toList.length = e.2 := by
    rw [String.length_toList]
    exact (hfits e he).length
  have hbefore : (commandSync ++ (fieldText 5 (g ("rt_address", 5))).toList ++
      (fieldText 1 (g ("message_error", 1))).toList ++ (fieldText 1 (g ("instrumentation", 1))).toList ++
      (fieldText 1 (g ("service_request", 1))).toList).length = 11 := by
    simp only [List.length_append]
    rw [hlength ("rt_address", 5) (by decide), hlength ("message_error", 1) (by decide),
      hlength ("instrumentation", 1) (by decide), hlength ("service_request", 1) (by decide)]
    rfl
  have hencoded : encodeFields statusLayout (statusLayout.map g) = fieldText 5 (g ("rt_address", 5)) ++
      (fieldText 1 (g ("message_error", 1)) ++ (fieldText 1 (g ("instrumentation", 1)) ++
        (fieldText 1 (g ("service_request", 1)) ++ (fieldText 3 (g ("reserved", 3)) ++
          encodeFields (statusLayout.drop 5) ((statusLayout.drop 5).map g))))) := rfl
  have hafter : text.toList = (commandSync ++ (fieldText 5 (g ("rt_address", 5))).toList ++
      (fieldText 1 (g ("message_error", 1))).toList ++ (fieldText 1 (g ("instrumentation", 1))).toList ++
      (fieldText 1 (g ("service_request", 1))).toList) ++ ((fieldText 3 (g ("reserved", 3))).toList ++
        ((encodeFields (statusLayout.drop 5) ((statusLayout.drop 5).map g)).toList ++ [c])) := by
    rw [htext, hencoded]
    simp only [String.toList_append, List.append_assoc]
  rw [slice, hafter, List.drop_left' hbefore, List.take_left' (hlength ("reserved", 3) (by decide)),
    String.ofList_toList]

/-- The layouts without reserved bits. -/
theorem Kind.eq_status_of_reserved {kind : Kind} {e : String × ℕ} (he : e ∈ kind.layout) (hname : e.1 = "reserved") :
    kind = .status ∧ e = ("reserved", 3) := by
  cases kind with
  | status =>
    refine ⟨rfl, ?_⟩
    simp only [layout, statusLayout, List.mem_cons, List.not_mem_nil, or_false] at he
    rcases he with rfl | rfl | rfl | rfl | rfl | rfl | rfl | rfl | rfl | rfl <;>
      first | rfl | exact absurd hname (by decide)
  | command =>
    simp only [layout, commandLayout, List.mem_cons, List.not_mem_nil, or_false] at he
    rcases he with rfl | rfl | rfl | rfl <;> exact absurd hname (by decide)
  | data =>
    simp only [layout, dataLayout, List.mem_cons, List.not_mem_nil, or_false] at he
    subst he
    exact absurd hname (by decide)

/-- Odd parity leaves one choice for a bit. -/
theorem eq_calculateParity {py : Runtime} {body : List Char} {c : Char} {p : ℤ} (hc : isBit c = true)
    (hp : py.intBase10 (String.ofList [c]) = .ok p) (hodd : (body.count '1' + p) % 2 = 1) :
    c = calculateParity body ∧ (p = 0 ∨ p = 1) := by
  have hbit : c = bitChar false ∨ c = bitChar true := by simpa [isBit, bitChar] using hc
  unfold calculateParity
  rcases hbit with rfl | rfl
  · rw [intBase10_bitChar] at hp
    have hzero := Except.ok.inj hp
    simp only [Bool.false_eq_true, if_false] at hzero
    rw [if_neg (by omega)]
    exact ⟨rfl, .inl hzero.symm⟩
  · rw [intBase10_bitChar] at hp
    have hone := Except.ok.inj hp
    simp only [if_true] at hone
    rw [if_pos (by omega)]
    exact ⟨rfl, .inr hone.symm⟩

section Exact

variable {py : Runtime} {kind : Kind} {text : String} {r : Record}

/-- A canonical text that is decoded is encoded again from its fields. -/
theorem encode_of_canonical (h : decodeWord py kind.sync kind.layout text = .ok r) (hcanonical : Canonical kind text)
    (encoder : Station) : r.InRange kind ∧ encoder.encode py kind r.fields = .ok text := by
  obtain ⟨body, c, p, ns, hword, hbody, hsync, hp, hodd, hns, rfl⟩ := decodeWord_eq_ok py h
  have hbits : ∀ d ∈ body ++ [c], isBit d = true := by
    rw [← hword]
    exact List.all_eq_true.mp hcanonical.1
  obtain ⟨hparity, hbit⟩ := eq_calculateParity (hbits c (by simp)) hp hodd
  have hlength : (body.drop 3).length = (kind.layout.map Prod.snd).sum := by
    rw [List.length_drop, kind.layout_sum]
    omega
  obtain ⟨ns', hns', hranges, htexts⟩ := decodeFields_of_bits py kind.layout_pos hlength
    fun d hd => hbits d (List.mem_append_left _ (List.mem_of_mem_drop hd))
  cases hns.symm.trans hns'
  obtain ⟨hget, hmap⟩ := get?_zip hranges kind.names_nodup
  set fields := (kind.layout.map Prod.fst).zip ns with hfields
  have hwidth : ∀ e ∈ kind.layout, InWidth e.2 (Dict.getD fields e.1 0) := by
    intro e he
    obtain ⟨n, hn, hrange⟩ := hget e he
    rw [Dict.getD_of_get? hn]
    exact hrange
  have hbodyEq : body = kind.sync ++ (encodeFields kind.layout ns).toList := by
    rw [htexts, ← hsync, List.take_append_drop]
  have hreserved : ∀ e ∈ kind.layout, e.1 = "reserved" → Dict.getD fields e.1 0 = 0 := by
    intro e he hname
    obtain ⟨rfl, rfl⟩ := Kind.eq_status_of_reserved he hname
    have hfits : ∀ e ∈ statusLayout, Fits py e.2 (Dict.getD fields e.1 0) := fun e he =>
      fits_of_inWidth py (Kind.layout_pos .status e he) (hwidth e he)
    have hchars : text.toList =
        commandSync ++ (encodeFields statusLayout (statusLayout.map fun e => Dict.getD fields e.1 0)).toList ++ [c] := by
      rw [hword, hbodyEq, ← hmap]
      rfl
    have hslice := slice_reserved hfits hchars
    have hread := (hfits ("reserved", 3) (by decide)).read
    rw [hcanonical.2 rfl] at hslice
    dsimp only at hslice hread
    rw [← hslice] at hread
    exact (Except.ok.inj hread).symm
  have hvalues : kind.values fields = ns := by
    conv_rhs => rw [← hmap]
    refine List.map_congr_left fun e he => ?_
    split_ifs with hname
    · exact (hreserved e he hname).symm
    · rfl
  refine ⟨⟨rfl, hbit, hget⟩, ?_⟩
  have hwidths : ∀ e ∈ kind.layout, InWidth e.2 (if e.1 = "reserved" then 0 else Dict.getD fields e.1 0) := by
    intro e he
    split_ifs
    · exact ⟨le_refl _, by positivity⟩
    · exact hwidth e he
  have hcomplete : (String.ofList kind.sync ++ encodeFields kind.layout ns).toList = body := by
    rw [String.toList_append, String.toList_ofList, hbodyEq]
  rw [Station.encode_of_inWidth py encoder hwidths, hvalues, completed_of_length (by
    rw [← String.length_toList, hcomplete, hbody]), hcomplete, withParity, ← hparity, ← hword, String.ofList_toList]

/-- What is encoded from fields in range is canonical. -/
theorem canonical_of_encode (hrange : r.InRange kind) {encoder : Station}
    (h : encoder.encode py kind r.fields = .ok text) : Canonical kind text := by
  obtain ⟨hcompleted, -⟩ := Station.encode_eq_ok h
  obtain ⟨hchars, -⟩ := completed_eq_ok hcompleted
  rw [withParity, String.toList_append, String.toList_ofList] at hchars
  have hwidths : List.Forall₂ (fun e n => InWidth e.2 n) kind.layout (kind.values r.fields) := by
    unfold Kind.values
    rw [List.forall₂_map_right_iff, List.forall₂_same]
    intro e he
    split_ifs
    · exact ⟨le_refl _, by positivity⟩
    · obtain ⟨n, hn, hinwidth⟩ := hrange.fields e he
      rw [Dict.getD_of_get? hn]
      exact hinwidth
  constructor
  · rw [isBinary, List.all_eq_true, hchars]
    intro c hc
    simp only [List.mem_append, List.mem_singleton] at hc
    rcases hc with (hc | hc) | rfl
    · have hsync : ∀ c ∈ kind.sync, isBit c = true := by
        cases kind <;> simp [Kind.sync, commandSync, dataSync, isBit]
      exact hsync c hc
    · exact isBinary_encodeFields kind.layout_pos hwidths c hc
    · exact isBit_calculateParity _
  · rintro rfl
    have hfits := Station.fits_of_encode h
    unfold Kind.values at hfits
    rw [List.forall₂_map_right_iff, List.forall₂_same] at hfits
    exact slice_reserved hfits hchars

end Exact

/-! ### The image of the encoders -/

/-- What is decoded has its fields in range and is encoded again to the characters that were decoded. -/
def AcceptsEncoded (py : Runtime) (kind : Kind) (encoder station : Station) (word : String) : Prop :=
  ∀ r, station.decode py kind word = .ok r → ∃ text, station.text py kind word = .ok text ∧
    r.InRange kind ∧ encoder.encode py kind r.fields = .ok text

/-- A decoder accepts a text that no encoder makes exactly when the text passes its checks and is not canonical;
the words of the encoders are decoded to their fields, and with one bit flipped they are refused. -/
theorem words_decode_exactly (py : Runtime) (kind : Kind) (encoder station : Station) :
    (∀ word, AcceptsEncoded py kind encoder station word ↔
      ∀ text, station.text py kind word = .ok text → Passes py kind text → Canonical kind text) ∧
    ∀ fields word, encoder.encode py kind fields = .ok word →
      (∃ r, station.decode py kind word = .ok r ∧ ∀ e ∈ kind.layout,
        Dict.get? r.fields e.1 = some (if e.1 = "reserved" then 0 else Dict.getD fields e.1 0)) ∧
      ∀ word', Flips word word' → ∀ r, station.decode py kind word' ≠ .ok r := by
  refine ⟨fun word => ⟨fun haccepts text htext hpasses => ?_, fun hcanonical r hr => ?_⟩,
    fun fields word hencode => ⟨?_, fun word' hflip => Station.decode_flipped hencode hflip station⟩⟩
  · obtain ⟨r, hr⟩ := (passes_iff py kind text).mp hpasses
    have hdecode : station.decode py kind word = .ok r := by
      rw [Station.decode_eq, htext]
      exact hr
    obtain ⟨text', htext', hrange, hencode⟩ := haccepts r hdecode
    cases htext.symm.trans htext'
    exact canonical_of_encode hrange hencode
  · rw [Station.decode_eq] at hr
    obtain ⟨text, htext, hdecode⟩ := bind_eq_ok hr
    have hpasses := (passes_iff py kind text).mpr ⟨r, hdecode⟩
    exact ⟨text, htext, encode_of_canonical hdecode (hcanonical text htext hpasses) encoder⟩
  · obtain ⟨p, hp⟩ := Station.decode_encoded hencode station
    refine ⟨_, hp, fun e he => ?_⟩
    have hsame : List.Forall₂ (fun e n => n = if e.1 = "reserved" then 0 else Dict.getD fields e.1 0) kind.layout
        (kind.values fields) := by
      unfold Kind.values
      rw [List.forall₂_map_right_iff, List.forall₂_same]
      exact fun _ _ => rfl
    obtain ⟨n, hn, rfl⟩ := (get?_zip hsame kind.names_nodup).1 e he
    exact hn

/-- The parity bit may be any digit of the right parity: here it is `2`. -/
theorem accepts_parity_digit :
    ¬∀ (kind : Kind) (encoder station : Station) (word : String), AcceptsEncoded .ascii kind encoder station word := by
  intro h
  have hdecode : Station.remoteTerminal.decode .ascii .data "00100000000000000002" = .ok ⟨dataSync, [("data", 0)], 2⟩ := by
    rfl
  obtain ⟨text, -, hrange, -⟩ := h .data .remoteTerminal .remoteTerminal "00100000000000000002" _ hdecode
  exact absurd hrange.parity (by decide)

end Fmofp.Bus
