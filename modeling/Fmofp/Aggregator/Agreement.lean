import Fmofp.Aggregator.Frames
import Fmofp.Bus.WordCodec

/-! When the aggregators of the two ends read the same precipitation objects out of frames.  Over
20-bit words both read `objectsOf` some count, so they differ exactly where their counts do, unless
the pairs in between cannot be told apart. -/

namespace Fmofp.Aggregator

open Python Precipitation Bus

/-- The sixteen data bits of a word as a number. -/
def wordValue : Value → ℕ
  | .str s => ofBits (dataBits s).toList
  | _ => 0

def objectOf (pair : Value × Value) : Value :=
  precipitationObject (wordValue pair.1) (wordValue pair.2)

def hasValidSync (pair : Value × Value) : Bool :=
  !(hasInvalidSync pair.1 || hasInvalidSync pair.2)

/-- A list of frames two by two. -/
def pairsOf : List Value → List (Value × Value)
  | position :: attr :: rest => (position, attr) :: pairsOf rest
  | _ => []

/-- The objects that a count of pairs yields: those with valid sync, and the last one of the count
in any case. -/
def objectsOf (count : ℕ) (pairs : List (Value × Value)) : List Value :=
  match count with
  | 0 => []
  | last + 1 => ((pairs.take last).filter hasValidSync ++ pairs[last]?.toList).map objectOf

/-- What can be told from a pair of words: the position, and the type, rate and intensity. -/
def fieldsOf (pair : Value × Value) : ℕ × String × ℕ × ℕ :=
  (wordValue pair.1, typeName (typeCode (wordValue pair.2)), rateCode (wordValue pair.2),
    intensityCode (wordValue pair.2))

/-- Two counts that read the same objects although they are different: the pairs between the two
last ones have invalid sync, and the two last ones have the same fields. -/
def SameObjects (pairs : List (Value × Value)) (a b : ℕ) : Prop :=
  a = b ∨ 0 < min a b ∧ (∀ pair ∈ (pairs.take (max a b - 1)).drop (min a b - 1),
    hasValidSync pair = false) ∧ pairs[a - 1]?.map fieldsOf = pairs[b - 1]?.map fieldsOf

/-- What the count word comes to at the bus controller, with so many pairs there. -/
def BusController.countOf (frame : Value) (pairs : ℕ) : ℕ := min (wordValue frame) pairs

/-- What the count word comes to at the terminal: four bits of it, or fifteen for none. -/
def RemoteTerminal.countOf (frame : Value) (pairs : ℕ) : ℕ :=
  if min (wordValue frame % 16) pairs = 0 then min 15 pairs else min (wordValue frame % 16) pairs

/-- The counts that the two ends go by agree on the frames that follow the count word. -/
def CountsAgree (frames : List Value) : Prop :=
  match frames.drop countFrameIndex with
  | [] => True
  | countFrame :: dataFrames =>
    let pairs := pairsOf dataFrames
    SameObjects pairs (BusController.countOf countFrame pairs.length)
      (RemoteTerminal.countOf countFrame pairs.length)

instance (pairs : List (Value × Value)) (a b : ℕ) : Decidable (SameObjects pairs a b) :=
  inferInstanceAs (Decidable (_ ∨ _))

instance (frames : List Value) : Decidable (CountsAgree frames) :=
  match h : frames.drop countFrameIndex with
  | [] => .isTrue (by simp only [CountsAgree, h])
  | countFrame :: dataFrames =>
    decidable_of_iff (SameObjects (pairsOf dataFrames)
      (BusController.countOf countFrame (pairsOf dataFrames).length)
      (RemoteTerminal.countOf countFrame (pairsOf dataFrames).length)) (by simp only [CountsAgree, h])

theorem dataBits_length {s : String} (h : s.length = 20) : (dataBits s).length = 16 := by
  rw [← String.length_toList] at h
  simp [dataBits, slice, String.length_ofList, h]

theorem isBinary_slice {s : String} (a b : ℕ) (h : isBinary s = true) :
    isBinary (slice s a b) = true := by
  rw [slice, isBinary_ofList]
  intro c hc
  have hmem : c ∈ s.toList := List.mem_of_mem_drop (List.mem_of_mem_take hc)
  exact List.all_eq_true.mp h c hmem

theorem intBase2_dataBits (py : Runtime) {s : String} (hlen : s.length = 20)
    (hbin : isBinary s = true) : py.intBase2 (dataBits s) = .ok (wordValue (.str s)) := by
  have hne : dataBits s ≠ "" := by
    intro h
    have hsixteen := dataBits_length hlen
    rw [h] at hsixteen
    exact absurd hsixteen (by decide)
  exact Runtime.intBase2_of_isBinary py (isBinary_slice 3 19 hbin) hne

theorem decodePair_of_isWord (py : Runtime) {position attr : Value} (hp : isWord position = true)
    (ha : isWord attr = true) : decodePair py position attr = .ok [objectOf (position, attr)] := by
  obtain ⟨p, rfl, hplen, hpbin⟩ := isWord_iff.mp hp
  obtain ⟨a, rfl, halen, habin⟩ := isWord_iff.mp ha
  simp only [decodePair, Value.length, hplen, halen, intBase2_dataBits py hplen hpbin,
    intBase2_dataBits py halen habin]
  rfl

theorem countFrameValue_of_isWord (py : Runtime) {frame : Value} (h : isWord frame = true) :
    countFrameValue py frame = .ok (some (wordValue frame : ℤ)) := by
  obtain ⟨s, rfl, hlen, hbin⟩ := isWord_iff.mp h
  simp only [countFrameValue, Value.length, hlen, intBase2_dataBits py hlen hbin]
  rfl

theorem BusController.objectCount_of_isWord (py : Runtime) {frame : Value}
    (h : isWord frame = true) (pairs : ℕ) :
    BusController.objectCount py frame pairs = .ok (some (BusController.countOf frame pairs)) := by
  rw [BusController.objectCount, countFrameValue_of_isWord py h]
  simp only [← Nat.cast_min, Int.toNat_natCast, BusController.countOf]

theorem RemoteTerminal.objectCount_of_isWord (py : Runtime) {frame : Value}
    (h : isWord frame = true) (pairs : ℕ) :
    RemoteTerminal.objectCount py frame pairs = .ok (RemoteTerminal.countOf frame pairs) := by
  rw [RemoteTerminal.objectCount, countFrameValue_of_isWord py h]
  rfl

theorem BusController.countOf_le (frame : Value) (pairs : ℕ) :
    BusController.countOf frame pairs ≤ pairs := min_le_right _ _

theorem RemoteTerminal.countOf_le (frame : Value) (pairs : ℕ) :
    RemoteTerminal.countOf frame pairs ≤ pairs := by
  unfold RemoteTerminal.countOf
  split_ifs <;> exact min_le_right _ _

theorem wordValue_lt (v : Value) : wordValue v < 65536 := by
  cases v with
  | str s =>
    have hlen : (dataBits s).toList.length ≤ 16 := by simp [dataBits, slice]
    exact (ofBits_lt _).trans_le (Nat.pow_le_pow_right (by decide) hlen)
  | _ => simp [wordValue]

/-- Two pairs of words read as the same object exactly when their fields are the same. -/
theorem objectOf_eq_iff (p q : Value × Value) : objectOf p = objectOf q ↔ fieldsOf p = fieldsOf q := by
  unfold objectOf fieldsOf
  rw [precipitationObject_eq_iff (wordValue_lt _) (wordValue_lt _)]
  simp only [Prod.mk.injEq]

theorem pairsOf_length : ∀ frames : List Value, (pairsOf frames).length = frames.length / 2
  | [] => rfl
  | [_] => by simp [pairsOf]
  | _ :: _ :: rest => by
    rw [pairsOf, List.length_cons, pairsOf_length rest, List.length_cons, List.length_cons]
    omega

theorem objectsOf_succ_cons (count : ℕ) (pair : Value × Value) (pairs : List (Value × Value)) :
    objectsOf (count + 2) (pair :: pairs) =
      (if hasValidSync pair then [objectOf pair] else []) ++ objectsOf (count + 1) pairs := by
  by_cases h : hasValidSync pair = true <;> simp [objectsOf, h]

/-- Over words the loop reads the objects of its count. -/
theorem decodePairs_of_isWord (py : Runtime) (count : ℕ) (frames : List Value)
    (hwords : ∀ f ∈ frames, isWord f = true) (hcount : count ≤ (pairsOf frames).length) :
    decodePairs py count frames = .ok (objectsOf count (pairsOf frames)) := by
  induction count generalizing frames with
  | zero => rfl
  | succ count ih =>
    match frames, hwords, hcount with
    | [], _, hcount => simp [pairsOf] at hcount
    | [_], _, hcount => simp [pairsOf] at hcount
    | position :: attr :: rest, hwords, hcount =>
      have hrest : ∀ f ∈ rest, isWord f = true := fun f hf => hwords f (by simp [hf])
      have hle : count ≤ (pairsOf rest).length := by
        rw [pairsOf, List.length_cons] at hcount
        omega
      have hpair := decodePair_of_isWord py (hwords position (by simp)) (hwords attr (by simp))
      rw [decodePairs, ih rest hrest hle, hpair, pairsOf]
      cases count with
      | zero => simp [objectsOf, bind, Except.bind, pure, Except.pure]
      | succ count =>
        rw [objectsOf_succ_cons]
        cases hsync : hasInvalidSync position || hasInvalidSync attr <;>
          simp [hasValidSync, hsync, bind, Except.bind, pure, Except.pure]

theorem objectsOf_eq_iff_of_lt {a b : ℕ} {pairs : List (Value × Value)} (hab : a < b)
    (hb : b ≤ pairs.length) :
    objectsOf a pairs = objectsOf b pairs ↔
      0 < a ∧ (∀ pair ∈ (pairs.take (b - 1)).drop (a - 1), hasValidSync pair = false) ∧
        pairs[a - 1]?.map fieldsOf = pairs[b - 1]?.map fieldsOf := by
  obtain ⟨m, rfl⟩ : ∃ m, b = m + 1 := ⟨b - 1, by omega⟩
  have hm : m < pairs.length := by omega
  cases a with
  | zero =>
    simp [objectsOf, List.getElem?_eq_getElem hm]
  | succ n =>
    have hn : n < pairs.length := by omega
    have hsplit : pairs.take m = pairs.take n ++ (pairs.take m).drop n := by
      have hmin : pairs.take n = (pairs.take m).take n := by
        rw [List.take_take, min_eq_left (by omega)]
      rw [hmin, List.take_append_drop]
    simp only [objectsOf, Nat.add_sub_cancel, List.getElem?_eq_getElem hm,
      List.getElem?_eq_getElem hn, Option.toList_some, Option.map_some, List.map_append,
      List.map_cons, List.map_nil, Option.some.injEq]
    rw [hsplit, List.filter_append, List.map_append, List.append_assoc, List.append_cancel_left_eq,
      ← hsplit]
    constructor
    · intro h
      have hlen := congrArg List.length h
      simp only [List.length_append, List.length_map, List.length_cons, List.length_nil] at hlen
      have hnil : ((pairs.take m).drop n).filter hasValidSync = [] :=
        List.eq_nil_of_length_eq_zero (by omega)
      rw [hnil, List.map_nil, List.nil_append] at h
      refine ⟨by omega, ?_, (objectOf_eq_iff _ _).mp (by simpa using h)⟩
      intro pair hpair
      by_contra hvalid
      have hmem : pair ∈ ((pairs.take m).drop n).filter hasValidSync :=
        List.mem_filter.mpr ⟨hpair, by simpa using hvalid⟩
      rw [hnil] at hmem
      exact absurd hmem (List.not_mem_nil)
    · rintro ⟨-, hinvalid, hobject⟩
      have hnil : ((pairs.take m).drop n).filter hasValidSync = [] :=
        List.filter_eq_nil_iff.mpr fun pair hpair => by simp [hinvalid pair hpair]
      rw [hnil, List.map_nil, List.nil_append, (objectOf_eq_iff _ _).mpr hobject]

/-- Two counts within the pairs read the same objects exactly when `SameObjects` says so. -/
theorem objectsOf_eq_iff {a b : ℕ} {pairs : List (Value × Value)} (ha : a ≤ pairs.length)
    (hb : b ≤ pairs.length) :
    objectsOf a pairs = objectsOf b pairs ↔ SameObjects pairs a b := by
  unfold SameObjects
  rcases lt_trichotomy a b with h | h | h
  · rw [objectsOf_eq_iff_of_lt h hb, min_eq_left h.le, max_eq_right h.le]
    simp [h.ne]
  · simp [h]
  · have hiff := objectsOf_eq_iff_of_lt h ha
    rw [min_eq_right h.le, max_eq_left h.le, eq_comm, hiff]
    constructor
    · rintro ⟨hpos, hinvalid, hobject⟩
      exact .inr ⟨hpos, hinvalid, hobject.symm⟩
    · rintro (heq | ⟨hpos, hinvalid, hobject⟩)
      · exact absurd heq h.ne'
      · exact ⟨hpos, hinvalid, hobject.symm⟩

/-- The data messages carry 20-bit words only. -/
def framesAreWords (dataMessages : List Message) : Bool :=
  dataMessages.all fun m => ((frames? m).getD []).all isWord

theorem collectFrames_isWord {dataMessages : List Message} (h : framesAreWords dataMessages = true) :
    ∀ f ∈ collectFrames dataMessages, isWord f = true := by
  intro f hf
  obtain ⟨m, hm, hmem⟩ := mem_collectFrames hf
  exact List.all_eq_true.mp (List.all_eq_true.mp h m hm) f hmem

/-- Over 20-bit words the two ends read the same objects exactly when their counts agree. -/
theorem extractions_agree_iff (py : Runtime) (dataMessages : List Message)
    (h : framesAreWords dataMessages = true) :
    BusController.extractPrecipitationDataFromFrames py dataMessages =
        RemoteTerminal.extractPrecipitationDataFromFrames py dataMessages ↔
      CountsAgree (collectFrames dataMessages) := by
  have hwords := collectFrames_isWord h
  unfold BusController.extractPrecipitationDataFromFrames
    RemoteTerminal.extractPrecipitationDataFromFrames CountsAgree
  generalize collectFrames dataMessages = frames at hwords
  cases hdrop : frames.drop countFrameIndex with
  | nil => simp only [hdrop]
  | cons countFrame dataFrames =>
    have hmem : ∀ f ∈ countFrame :: dataFrames, isWord f = true := fun f hf =>
      hwords f (List.mem_of_mem_drop (hdrop ▸ hf))
    have hdata : ∀ f ∈ dataFrames, isWord f = true := fun f hf => hmem f (by simp [hf])
    have hpairs : maxPossibleObjects frames = (pairsOf dataFrames).length := by
      have hlen := congrArg List.length hdrop
      rw [List.length_drop, List.length_cons] at hlen
      rw [pairsOf_length, maxPossibleObjects, firstDataFrameIndex]
      simp only [countFrameIndex] at hlen
      omega
    simp only [hdrop, hpairs, BusController.objectCount_of_isWord py (hmem countFrame (by simp)),
      RemoteTerminal.objectCount_of_isWord py (hmem countFrame (by simp)), bind, Except.bind]
    have hbc := BusController.countOf_le countFrame (pairsOf dataFrames).length
    have hrt := RemoteTerminal.countOf_le countFrame (pairsOf dataFrames).length
    rw [decodePairs_of_isWord py _ _ hdata hbc, decodePairs_of_isWord py _ _ hdata hrt,
      Except.ok.injEq]
    exact objectsOf_eq_iff hbc hrt

/-- One block: status word, sequence number, total, a count word and one pair of frames. -/
def singlePair (count : String) : Message :=
  [("frames", .list [.str "10000001000010000010", .str "00100000000000000010",
    .str "00100000000000000010", .str count, .str "00110000000100000001",
    .str "00100010000010111110"])]

theorem extractions_agree_on_count_one :
    BusController.extractPrecipitationDataFromFrames .ascii [singlePair "00100000000000000010"] =
      RemoteTerminal.extractPrecipitationDataFromFrames .ascii
        [singlePair "00100000000000000010"] :=
  (extractions_agree_iff .ascii [singlePair "00100000000000000010"] (by decide)).mpr (by decide)

/-- A count word of zero: the bus controller reads nothing and the terminal reads the pair. -/
theorem extractions_differ_on_count_zero :
    framesAreWords [singlePair "00100000000000000000"] = true ∧
      BusController.extractPrecipitationDataFromFrames .ascii [singlePair "00100000000000000000"] ≠
        RemoteTerminal.extractPrecipitationDataFromFrames .ascii
          [singlePair "00100000000000000000"] := by
  decide

end Fmofp.Aggregator
