import Fmofp.Precipitation.Scale
import Fmofp.Aggregator.Agreement
import Fmofp.Sender.RemoteTerminal
import Fmofp.Python.Quantum

/-! The way of precipitation objects over the bus: `_encode_complex_objects` makes words of them, the
terminal's sender cuts the words into the data messages of a block transfer, and the bus controller's
aggregator reads objects out of their frames again.  An object is the dictionary of its attributes.  The
decoder takes the scale word for the position of the first object, and each later word for what comes before
it, so that only objects whose words are all the scale word arrive as they were. -/

namespace Fmofp.Precipitation

open Python Aggregator Sender

/-- `min(255, int(math.log2(scale) * 16))`, of a whole scale. -/
def scaleCode (scale : ℚ) : ℕ := min 255 (Nat.log2 (⌊scale⌋.toNat ^ 16))

/-- The second word, which no decoder reads. -/
def scaleWord : ℕ := (scaleCode rateScale * 256) ||| scaleCode intensityScale

/-- `q * k` of an attribute, where only a number can be multiplied so. -/
def scaledAttribute (o : Message) (k : String) (default scale : ℚ) : Except Exception ℚ :=
  match (Dict.getD o k (.float default)).number? with
  | some q => .ok (q * scale)
  | none => .error .typeError

/-- The position word; a position is any two numbers. -/
def positionWord (py : Runtime) (o : Message) : Except Exception ℕ :=
  match Dict.get? o "position" with
  | none => .error .attributeError
  | some position => do
    let coordinates ← (← position.iterate).mapM (toFloat py)
    match coordinates with
    | [x, y] => return (clamp 255 (truncate (x + 128)) * 256) ||| clamp 255 (truncate (y + 128))
    | _ => throw .valueError

def isVil (o : Message) : Bool :=
  Dict.has o "value" && Dict.has o "layer_count" && !Dict.has o "type"

/-- The attribute word of a VIL object, whose intensity is needed by the log line at the latest. -/
def vilAttributeWord (py : Runtime) (o : Message) : Except Exception ℕ := do
  let value ← scaledAttribute o "value" 0 2
  let layers ← toInt py (Dict.getD o "layer_count" (.int 0))
  let intensity ← scaledAttribute o "intensity" 0 15
  if Dict.has o "intensity" then
    return (clamp 127 (roundHalfEven value) * 512) ||| (clamp 15 layers * 32) |||
      (clamp 15 (roundHalfEven intensity) * 2) |||
      if (Dict.getD o "show_values" (.bool true)).truthy then 1 else 0
  else throw .attributeError

/-- The code of a type; a type that is not hashable cannot be looked up. -/
def attributeTypeCode (o : Message) : Except Exception ℕ :=
  match Dict.getD o "type" (.str defaultType) with
  | .str s => .ok (Dict.getD typeNameToCode s 0)
  | v => if v.key?.isSome then .ok 0 else .error .typeError

def attributeWord (py : Runtime) (o : Message) : Except Exception ℕ :=
  if isVil o then vilAttributeWord py o
  else do
    let type ← attributeTypeCode o
    let rate ← scaledAttribute o "rate" 0 rateScale
    let intensity ← scaledAttribute o "intensity" (1 / 2) intensityScale
    return (type * 4096) ||| (clamp maxCode (truncate rate) * 64) |||
      clamp maxCode (truncate intensity)

/-- The words of an object: what raises leaves the words that it has come to. -/
def objectWords (py : Runtime) (o : Message) : List ℕ :=
  match positionWord py o with
  | .error _ => []
  | .ok position => match attributeWord py o with
    | .error _ => [position]
    | .ok attributes => [position, attributes]

/-- `_encode_complex_objects`. -/
def encodeComplexObjects (py : Runtime) (objects : List Message) : List ℕ :=
  objects.length :: scaleWord :: objects.flatMap (objectWords py)

/-- A status word and a data word for each number. -/
def wireFrames (py : Runtime) (statusWord : String) (objects : List Message) : List Value :=
  .str statusWord ::
    (encodeComplexObjects py objects).map fun n : ℕ => RemoteTerminal.convertItem (.int n)

/-- The data messages that the sender cuts the frames of a message into. -/
def dataMessages (m : Message) (frames : List Value) : List Message :=
  match RemoteTerminal.plan m (.list frames) with
  | .ok (some p) => (List.range p.numMessages).map p.block
  | _ => []

/-- What the bus controller reads of the objects that were sent with the message. -/
def received (py : Runtime) (m : Message) (statusWord : String) (objects : List Message) :
    Except Exception (List Value) :=
  BusController.extractPrecipitationDataFromFrames py
    (dataMessages m (wireFrames py statusWord objects))

/-! ### What arrives -/

open Bus


/-- A precipitation object in the range of the wire. -/
structure Cell where
  x : ℚ
  y : ℚ
  type : String
  rate : ℚ
  intensity : ℚ
  x_range : -128 ≤ x ∧ x ≤ 127
  y_range : -128 ≤ y ∧ y ≤ 127
  type_known : Dict.has typeNameToCode type = true
  rate_range : 0 ≤ rate ∧ rate ≤ maxCode / rateScale
  intensity_range : 0 ≤ intensity ∧ intensity ≤ 1

/-- The attributes of the object are those of the cell. -/
structure Represents (o : Message) (c : Cell) : Prop where
  position : ∃ position x y, Dict.get? o "position" = some position ∧ position.iterate = .ok [x, y] ∧
    x.number? = some c.x ∧ y.number? = some c.y
  type : Dict.get? o "type" = some (.str c.type)
  rate : (Dict.getD o "rate" (.float 0)).number? = some c.rate
  intensity : (Dict.getD o "intensity" (.float (1 / 2))).number? = some c.intensity

namespace Cell

variable (c : Cell)

/-- A position as the wire truncates it. -/
def truncatedPosition : ℤ × ℤ :=
  (truncate (c.x + positionOffset) - positionOffset, truncate (c.y + positionOffset) - positionOffset)

def position : ℕ := (⌊c.x⌋ + 128).toNat * 256 + (⌊c.y⌋ + 128).toNat

def typeCode : ℕ := Dict.getD typeNameToCode c.type 0

def attributes : ℕ :=
  c.typeCode * 4096 + ⌊c.rate * rateScale⌋.toNat * 64 + ⌊c.intensity * intensityScale⌋.toNat

/-- The object has the truncated position, the type, and the rate and the intensity rounded down to the
quantum of the wire. -/
def Restores (v : Value) : Prop :=
  ∃ fields, v = .dict fields ∧
    Dict.get? fields "position" = some (.tuple [.int c.truncatedPosition.1, .int c.truncatedPosition.2]) ∧
    Dict.get? fields "type" = some (.str c.type) ∧
    Dict.get? fields "rate" = some (.float (⌊c.rate * rateScale⌋ / rateScale)) ∧
    Dict.get? fields "intensity" = some (.float (⌊c.intensity * intensityScale⌋ / intensityScale))

/-- The cells whose two words are both the scale word. -/
def Stays : Prop :=
  ⌊c.x⌋ = -112 ∧ ⌊c.y⌋ = -33 ∧ c.type = "snow" ∧ ⌊c.rate * rateScale⌋ = 1 ∧
    ⌊c.intensity * intensityScale⌋ = 31

theorem coordinate_bounds {x : ℚ} (h : -128 ≤ x ∧ x ≤ 127) : -128 ≤ ⌊x⌋ ∧ ⌊x⌋ ≤ 127 := by
  constructor
  · exact Int.le_floor.mpr (by exact_mod_cast h.1)
  · have hle : (⌊x⌋ : ℚ) ≤ 127 := (Int.floor_le x).trans h.2
    exact_mod_cast hle

theorem truncate_coordinate {x : ℚ} (h : -128 ≤ x ∧ x ≤ 127) : truncate (x + 128) = ⌊x⌋ + 128 := by
  rw [truncate, if_pos (by linarith [h.1])]
  exact_mod_cast Int.floor_add_natCast x 128

theorem rate_bounds : 0 ≤ ⌊c.rate * rateScale⌋ ∧ ⌊c.rate * rateScale⌋ ≤ 63 := by
  have hscale : (0 : ℚ) < rateScale := by norm_num [rateScale]
  constructor
  · exact Int.floor_nonneg.mpr (mul_nonneg c.rate_range.1 hscale.le)
  · have hle : c.rate * rateScale ≤ maxCode := (le_div_iff₀ hscale).mp c.rate_range.2
    have hfloor : (⌊c.rate * rateScale⌋ : ℚ) ≤ maxCode := (Int.floor_le _).trans hle
    exact_mod_cast hfloor

theorem intensity_bounds :
    0 ≤ ⌊c.intensity * intensityScale⌋ ∧ ⌊c.intensity * intensityScale⌋ ≤ 63 := by
  have hscale : (0 : ℚ) < intensityScale := by norm_num [intensityScale]
  constructor
  · exact Int.floor_nonneg.mpr (mul_nonneg c.intensity_range.1 hscale.le)
  · have hle : c.intensity * intensityScale ≤ intensityScale :=
      mul_le_of_le_one_left hscale.le c.intensity_range.2
    have hfloor : (⌊c.intensity * intensityScale⌋ : ℚ) ≤ 63 := (Int.floor_le _).trans hle
    exact_mod_cast hfloor

theorem typeCode_le : c.typeCode ≤ 4 := by
  have htable : ∀ e ∈ typeNameToCode, e.2 ≤ 4 := by decide
  obtain ⟨n, hn⟩ := Dict.has_iff.mp c.type_known
  have hmem := htable _ (Dict.mem_of_get?_eq_some hn)
  simpa [typeCode, Dict.getD, hn] using hmem

theorem position_lt : c.position < 65536 := by
  have hx := coordinate_bounds c.x_range
  have hy := coordinate_bounds c.y_range
  unfold position
  omega

theorem attributes_lt : c.attributes < 65536 := by
  have htype := c.typeCode_le
  have hrate := c.rate_bounds
  have hintensity := c.intensity_bounds
  unfold attributes
  omega

end Cell

variable {py : Runtime} {o : Message} {c : Cell}

theorem toFloat_of_number {v : Value} {q : ℚ} (h : v.number? = some q) : toFloat py v = .ok q := by
  unfold toFloat
  rw [h]

theorem positionWord_eq (h : Represents o c) : positionWord py o = .ok c.position := by
  obtain ⟨position, x, y, hposition, hiterate, hx, hy⟩ := h.position
  have hbx := Cell.coordinate_bounds c.x_range
  have hby := Cell.coordinate_bounds c.y_range
  have hclamp {n : ℤ} (hn : -128 ≤ n ∧ n ≤ 127) : clamp 255 (n + 128) = (n + 128).toNat := by
    unfold clamp
    omega
  have hword : (clamp 255 (truncate (c.x + 128)) * 256 ||| clamp 255 (truncate (c.y + 128))) =
      c.position := by
    rw [Cell.truncate_coordinate c.x_range, Cell.truncate_coordinate c.y_range, hclamp hbx, hclamp hby]
    exact or_eq_add (k := 8) (by omega)
  simp only [positionWord, hposition, hiterate, bind, Except.bind, List.mapM_cons, List.mapM_nil,
    toFloat_of_number hx, toFloat_of_number hy, pure, Except.pure, hword]

theorem attributeWord_eq (h : Represents o c) : attributeWord py o = .ok c.attributes := by
  have hvil : isVil o = false := by
    simp [isVil, Dict.has, h.type]
  have htype : attributeTypeCode o = .ok c.typeCode := by
    simp [attributeTypeCode, Dict.getD, h.type, Cell.typeCode]
  have hrate : scaledAttribute o "rate" 0 rateScale = .ok (c.rate * rateScale) := by
    simp [scaledAttribute, h.rate]
  have hintensity : scaledAttribute o "intensity" (1 / 2) intensityScale =
      .ok (c.intensity * intensityScale) := by
    simp only [scaledAttribute, h.intensity]
  have hboundsRate := c.rate_bounds
  have hboundsIntensity := c.intensity_bounds
  have hclamp {q : ℚ} (hq : 0 ≤ ⌊q⌋ ∧ ⌊q⌋ ≤ 63) : clamp maxCode (truncate q) = ⌊q⌋.toNat := by
    rw [truncate, if_pos (Int.floor_nonneg.mp hq.1), clamp, maxCode]
    omega
  have hword : (c.typeCode * 4096 ||| clamp maxCode (truncate (c.rate * rateScale)) * 64 |||
      clamp maxCode (truncate (c.intensity * intensityScale))) = c.attributes := by
    rw [hclamp hboundsRate, hclamp hboundsIntensity]
    have hhigh : c.typeCode * 4096 ||| ⌊c.rate * rateScale⌋.toNat * 64 =
        (c.typeCode * 64 + ⌊c.rate * rateScale⌋.toNat) * 64 := by
      rw [show c.typeCode * 4096 = c.typeCode * 2 ^ 12 by norm_num, or_eq_add (by omega)]
      omega
    rw [hhigh, show (64 : ℕ) = 2 ^ 6 by norm_num, or_eq_add (by omega), Cell.attributes]
    omega
  simp only [attributeWord, hvil, htype, hrate, hintensity, bind, Except.bind, pure, Except.pure,
    hword, Bool.false_eq_true, if_false]

/-- The words of all objects, in order. -/
theorem flatMap_objectWords {objects : List Message} {cells : List Cell}
    (h : List.Forall₂ Represents objects cells) :
    objects.flatMap (objectWords py) = cells.flatMap fun c => [c.position, c.attributes] := by
  induction h with
  | nil => rfl
  | cons hhead _ ih =>
    rw [List.flatMap_cons, List.flatMap_cons, ih, objectWords, positionWord_eq hhead,
      attributeWord_eq hhead]

/-! ### The frames of the data messages -/

theorem splitBlocks_append {body rest : List Value} (hbody : ∀ f ∈ body, isStatusWord f = false)
    (hrest : (splitBlocks rest).1 = []) :
    splitBlocks (body ++ rest) = (body, (splitBlocks rest).2) := by
  induction body with
  | nil => exact Prod.ext hrest rfl
  | cons f body ih =>
    have hf := hbody f List.mem_cons_self
    rw [List.cons_append, splitBlocks, ih fun g hg => hbody g (List.mem_cons_of_mem _ hg)]
    simp [hf]

/-- Frames that are blocks, each with a status word in front only, are split into these. -/
theorem splitBlocks_flatMap {statusWord : Value} (hstatus : isStatusWord statusWord = true)
    {bodies : List (List Value)} (hbodies : ∀ body ∈ bodies, ∀ f ∈ body, isStatusWord f = false) :
    splitBlocks (bodies.flatMap fun body => statusWord :: body) =
      ([], bodies.map fun body => statusWord :: body) := by
  induction bodies with
  | nil => rfl
  | cons body bodies ih =>
    have hrest := ih fun body' h => hbodies body' (List.mem_cons_of_mem _ h)
    rw [List.flatMap_cons, List.cons_append, splitBlocks,
      splitBlocks_append (hbodies body List.mem_cons_self) (by rw [hrest]), hrest]
    simp [hstatus]

/-- The first block is kept as it is and the others lose their headers. -/
theorem preprocessFramesList_blocks {first : List Value} {others : List (List Value)}
    (h : splitBlocks (first ++ others.flatten) = ([], first :: others)) :
    preprocessFramesList (first ++ others.flatten) = first ++ others.flatMap (List.drop headerSize) := by
  unfold preprocessFramesList
  rw [h]
  cases others with
  | nil => rfl
  | cons second rest => rfl

/-- Without their headers the blocks of a transfer are its data frames, after the first header. -/
theorem collectFrames_blocks {p : Plan} (hp : p.WellFormed) (hstatus : isStatusWord p.leadingWord = true)
    (hword : ∀ i, isStatusWord (p.word i) = false) (hdata : ∀ f ∈ p.dataFrames, isStatusWord f = false)
    (hne : p.dataFrames ≠ []) :
    collectFrames ((List.range p.numMessages).map p.block) =
      [p.leadingWord, p.word 1, p.word p.numMessages] ++ p.dataFrames := by
  set bodies := (List.range p.numMessages).map fun i =>
    p.word (i + 1) :: p.word p.numMessages :: p.chunk i with hbodies
  have hframes : (((List.range p.numMessages).map p.block).flatMap fun m => (frames? m).getD []) =
      bodies.flatMap fun body => p.leadingWord :: body := by
    rw [List.flatMap_map, hbodies, List.flatMap_map]
    refine List.flatMap_congr fun i _ => ?_
    simp [frames?, (hp.block i).frames_eq, Plan.blockFrames]
  have hall : ∀ body ∈ bodies, ∀ f ∈ body, isStatusWord f = false := by
    intro body hbody f hf
    obtain ⟨i, -, rfl⟩ := List.mem_map.mp hbody
    rcases List.mem_cons.mp hf with rfl | hf
    · exact hword _
    · rcases List.mem_cons.mp hf with rfl | hf
      · exact hword _
      · exact hdata f (List.mem_of_mem_drop (List.mem_of_mem_take hf))
  have hpos : 0 < p.numMessages := by
    have hlength := List.length_pos_of_ne_nil hne
    rw [p.numMessages_spec]
    omega
  obtain ⟨n, hn⟩ : ∃ n, p.numMessages = n + 1 := ⟨p.numMessages - 1, by omega⟩
  set first := p.leadingWord :: p.word 1 :: p.word p.numMessages :: p.chunk 0 with hfirst
  set others := (List.range n).map fun i =>
    p.leadingWord :: p.word (i + 2) :: p.word p.numMessages :: p.chunk (i + 1) with hothers
  have hblocks : (bodies.map fun body => p.leadingWord :: body) = first :: others := by
    rw [hbodies, hn, List.range_succ_eq_map, List.map_cons, List.map_map, List.map_cons, List.map_map,
      hfirst, hothers, hn]
    rfl
  have hchunks : p.dataFrames = p.chunk 0 ++ others.flatMap (List.drop headerSize) := by
    conv_lhs => rw [← p.flatten_all_chunks, hn, List.range_succ_eq_map, List.map_cons, List.map_map]
    rw [hothers, List.flatMap_map, List.flatMap_def]
    rfl
  have hflat : (bodies.flatMap fun body => p.leadingWord :: body) = first ++ others.flatten := by
    rw [List.flatMap_def, hblocks, List.flatten_cons]
  have hsplit := splitBlocks_flatMap hstatus hall
  rw [hflat, hblocks] at hsplit
  rw [collectFrames, hframes, hflat, preprocessFramesList_blocks hsplit, hchunks, hfirst]
  rfl

/-! ### What is read of words -/

def frameOf (n : ℕ) : Value := .str (dataFrame n)

def wordPairs : List ℕ → List (ℕ × ℕ)
  | position :: attributes :: rest => (position, attributes) :: wordPairs rest
  | _ => []

/-- The objects of the first pairs of words. -/
def decodeWords (count : ℕ) (words : List ℕ) : List Value :=
  ((wordPairs words).take count).map fun pair => precipitationObject pair.1 pair.2

theorem wordPairs_length : ∀ words : List ℕ, (wordPairs words).length = words.length / 2
  | [] => rfl
  | [_] => by simp [wordPairs]
  | _ :: _ :: rest => by
    rw [wordPairs, List.length_cons, wordPairs_length rest, List.length_cons, List.length_cons]
    omega

theorem wordValue_frameOf {n : ℕ} (h : n < 65536) : wordValue (frameOf n) = n := by
  rw [frameOf, wordValue, Aggregator.dataBits, dataFrame_slice]
  exact ofBits_bits_of_lt h

theorem isWord_frameOf (n : ℕ) : Bus.isWord (frameOf n) = true := isWord_dataFrame n

theorem validateFrame_frameOf (n : ℕ) : validateFrame (frameOf n) = some (frameOf n) :=
  validateFrame_dataFrame n

theorem isStatusWord_frameOf (n : ℕ) : isStatusWord (frameOf n) = false := by
  rw [frameOf, isStatusWord, startsWith, dataFrame_toList]
  rfl

theorem isStatusWord_wordOfInt (n : ℤ) : isStatusWord (wordOfInt n) = false := by
  unfold wordOfInt
  split_ifs
  · exact isStatusWord_frameOf _
  · rfl

/-- Reading the frames of words gives the objects of the pairs of words. -/
theorem pairsOf_frames : ∀ {words : List ℕ}, (∀ n ∈ words, n < 65536) →
    ∀ pair ∈ pairsOf (words.map frameOf), hasValidSync pair = true
  | [], _, _, h => by cases h
  | [_], _, _, h => by cases h
  | p :: a :: rest, hwords, pair, h => by
    rcases List.mem_cons.mp h with rfl | h
    · simp [hasValidSync, hasInvalidSync, frameOf, dataFrame_startsWith]
    · exact pairsOf_frames (fun n hn => hwords n (by simp [hn])) pair h

theorem objectOf_pairsOf : ∀ {words : List ℕ}, (∀ n ∈ words, n < 65536) →
    (pairsOf (words.map frameOf)).map objectOf =
      (wordPairs words).map fun pair => precipitationObject pair.1 pair.2
  | [], _ => rfl
  | [_], _ => rfl
  | p :: a :: rest, hwords => by
    have hp := wordValue_frameOf (hwords p (by simp))
    have ha := wordValue_frameOf (hwords a (by simp))
    simp only [List.map_cons, pairsOf, wordPairs, objectOf, hp, ha,
      objectOf_pairsOf fun n hn => hwords n (List.mem_cons_of_mem _ (List.mem_cons_of_mem _ hn))]

theorem objectsOf_frames {count : ℕ} {words : List ℕ} (hwords : ∀ n ∈ words, n < 65536) :
    objectsOf count (pairsOf (words.map frameOf)) = decodeWords count words := by
  have hvalid := pairsOf_frames hwords
  rw [decodeWords, List.map_take, ← objectOf_pairsOf hwords, ← List.map_take]
  cases count with
  | zero => rfl
  | succ last =>
    have hall : ((pairsOf (words.map frameOf)).take last).filter hasValidSync =
        (pairsOf (words.map frameOf)).take last :=
      List.filter_eq_self.mpr fun pair hpair => hvalid pair (List.mem_of_mem_take hpair)
    rw [objectsOf, hall, ← List.take_add_one]

/-- The objects that are read of a transfer whose data frames are a count and further words. -/
theorem extract_words (py : Runtime) {p : Plan} (hp : p.WellFormed)
    (hstatus : isStatusWord p.leadingWord = true) (hword : ∀ i, isStatusWord (p.word i) = false)
    {count : ℕ} {words : List ℕ} (hcount : count < 65536) (hwords : ∀ n ∈ words, n < 65536)
    (hdata : p.dataFrames = (count :: words).map frameOf) :
    BusController.extractPrecipitationDataFromFrames py ((List.range p.numMessages).map p.block) =
      .ok (decodeWords (min count (words.length / 2)) words) := by
  have hnone : ∀ f ∈ p.dataFrames, isStatusWord f = false := by
    rw [hdata]
    intro f hf
    obtain ⟨n, -, rfl⟩ := List.mem_map.mp hf
    exact isStatusWord_frameOf n
  have hframes := collectFrames_blocks hp hstatus hword hnone (by simp [hdata])
  have hall : ∀ f ∈ words.map frameOf, Bus.isWord f = true := by
    intro f hf
    obtain ⟨n, -, rfl⟩ := List.mem_map.mp hf
    exact isWord_frameOf n
  have hpairs : (pairsOf (words.map frameOf)).length = words.length / 2 := by
    rw [pairsOf_length, List.length_map]
  have hmax : maxPossibleObjects (collectFrames ((List.range p.numMessages).map p.block)) =
      words.length / 2 := by
    rw [hframes, hdata, maxPossibleObjects, firstDataFrameIndex]
    simp
  have hobjectCount : BusController.objectCount py (frameOf count) (words.length / 2) =
      .ok (some (min count (words.length / 2))) := by
    rw [BusController.objectCount_of_isWord py (isWord_frameOf count), BusController.countOf,
      wordValue_frameOf hcount]
  have hdecode := decodePairs_of_isWord py (min count (words.length / 2)) _ hall
    (by rw [hpairs]; exact min_le_right _ _)
  rw [objectsOf_frames hwords] at hdecode
  have hdrop : (collectFrames ((List.range p.numMessages).map p.block)).drop countFrameIndex =
      frameOf count :: words.map frameOf := by
    rw [hframes, hdata]
    rfl
  unfold BusController.extractPrecipitationDataFromFrames
  simp only [hdrop, hmax, hobjectCount, hdecode, bind, Except.bind]

/-! ### The round trip -/

theorem restores_iff {position attributes : ℕ} (hposition : position < 65536) :
    c.Restores (precipitationObject position attributes) ↔ position = c.position ∧
      typeName (typeCode attributes) = c.type ∧ rateCode attributes = ⌊c.rate * rateScale⌋ ∧
        intensityCode attributes = ⌊c.intensity * intensityScale⌋ := by
  have hx := Cell.coordinate_bounds c.x_range
  have hy := Cell.coordinate_bounds c.y_range
  have hrate : (rateCode attributes : ℚ) / rateScale = ⌊c.rate * rateScale⌋ / rateScale ↔
      (rateCode attributes : ℤ) = ⌊c.rate * rateScale⌋ := by
    rw [div_left_inj' (by norm_num [rateScale])]
    norm_cast
  have hintensity : (intensityCode attributes : ℚ) / intensityScale =
      ⌊c.intensity * intensityScale⌋ / intensityScale ↔
      (intensityCode attributes : ℤ) = ⌊c.intensity * intensityScale⌋ := by
    rw [div_left_inj' (by norm_num [intensityScale])]
    norm_cast
  have hplace : ((position : ℤ) / 256 % 256 - positionOffset = c.truncatedPosition.1 ∧
      (position : ℤ) % 256 - positionOffset = c.truncatedPosition.2) ↔ position = c.position := by
    have htruncated : c.truncatedPosition = (⌊c.x⌋, ⌊c.y⌋) := by
      have hoffset : (positionOffset : ℚ) = 128 := by norm_num [positionOffset]
      rw [Cell.truncatedPosition, hoffset, Cell.truncate_coordinate c.x_range,
        Cell.truncate_coordinate c.y_range, positionOffset]
      simp
    rw [htruncated, positionOffset, Cell.position]
    omega
  rw [← hplace, ← hrate, ← hintensity]
  unfold Cell.Restores precipitationObject
  simp only [Value.dict.injEq, exists_eq_left', decodeAttributeWord, rate_bounded, intensity_bounded]
  simp [Dict.get?, and_assoc]

theorem stays_iff : c.Stays ↔ 4191 = c.position ∧ typeName (typeCode 4191) = c.type ∧
    rateCode 4191 = ⌊c.rate * rateScale⌋ ∧ intensityCode 4191 = ⌊c.intensity * intensityScale⌋ := by
  have hx := Cell.coordinate_bounds c.x_range
  have hy := Cell.coordinate_bounds c.y_range
  have htype : typeName (typeCode 4191) = "snow" := by decide +kernel
  have hrate : rateCode 4191 = 1 := by decide +kernel
  have hintensity : intensityCode 4191 = 31 := by decide +kernel
  rw [htype, hrate, hintensity, Cell.Stays, Cell.position]
  constructor
  · rintro ⟨h₁, h₂, h₃, h₄, h₅⟩
    refine ⟨by omega, h₃.symm, by omega, by omega⟩
  · rintro ⟨h₁, h₂, h₃, h₄⟩
    refine ⟨by omega, by omega, h₂.symm, by omega, by omega⟩

theorem attributes_of_stays (h : c.Stays) : c.attributes = 4191 := by
  obtain ⟨-, -, htype, hrate, hintensity⟩ := h
  have hcode : c.typeCode = 1 := by
    rw [Cell.typeCode, htype]
    rfl
  rw [Cell.attributes, hcode, hrate, hintensity]
  rfl

/-- The decoder is one word behind: cells are restored exactly if they are all words of the word that
stands before them. -/
theorem restored_iff (cells : List Cell) :
    List.Forall₂ Cell.Restores cells
        ((wordPairs (4191 :: cells.flatMap fun c => [c.position, c.attributes])).map fun pair =>
          precipitationObject pair.1 pair.2) ↔ ∀ c ∈ cells, c.Stays := by
  induction cells with
  | nil => simp [wordPairs]
  | cons c cells ih =>
    have hhead : c.Restores (precipitationObject (4191 : ℕ) c.position) ↔ c.Stays := by
      rw [restores_iff (by norm_num), stays_iff]
      exact and_congr_right fun h => by rw [← h, Nat.cast_ofNat]
    rw [List.flatMap_cons, List.forall_mem_cons, ← hhead]
    simp only [List.cons_append, List.nil_append, wordPairs, List.map_cons, List.forall₂_cons]
    refine and_congr_right fun h => ?_
    rw [attributes_of_stays (hhead.mp h)]
    exact ih

/-- The frames that are sent, when the words after the first all have sixteen bits. -/
theorem validateFrames_wireFrames {statusWord : String} (hlength : statusWord.length = 20)
    (hstatus : startsWith statusWord "100" = true) {count : ℕ} {words : List ℕ}
    (hwords : ∀ n ∈ words, n < 65536) :
    validateFrames (.str statusWord ::
        (count :: words).map fun n : ℕ => RemoteTerminal.convertItem (.int n)) =
      .str statusWord :: ((if count < 65536 then [count] else []) ++ words).map frameOf := by
  have hframe {n : ℕ} (hn : n < 65536) : RemoteTerminal.convertItem (.int n) = frameOf n :=
    wordOfInt_natCast (by omega)
  have hkept : validateFrame (.str statusWord) = some (.str statusWord) := by
    simp [validateFrame, hlength, hstatus]
  have hrest : (words.map fun n : ℕ => RemoteTerminal.convertItem (.int n)) = words.map frameOf :=
    List.map_congr_left fun n hn => hframe (hwords n hn)
  have hvalid : validateFrames (words.map frameOf) = words.map frameOf := by
    refine validateFrames_eq_self fun f hf => ?_
    obtain ⟨n, -, rfl⟩ := List.mem_map.mp hf
    exact validateFrame_frameOf n
  rw [List.map_cons, hrest]
  unfold validateFrames at hvalid ⊢
  rw [List.filterMap_cons_some hkept]
  split_ifs with hcount
  · rw [hframe hcount, List.filterMap_cons_some (validateFrame_frameOf count), hvalid]
    rfl
  · have hnone : RemoteTerminal.convertItem (.int count) = .none := by
      show wordOfInt count = .none
      rw [wordOfInt, if_neg (by omega)]
    rw [hnone, List.filterMap_cons_none rfl, hvalid]
    rfl

theorem plan_eq {m md : Message} (hmd : Dict.getD m "metadata" (.dict []) = .dict md)
    {frames dataFrames : List Value} {statusWord : Value}
    (h : validateFrames frames = statusWord :: dataFrames) :
    RemoteTerminal.plan m (.list frames) = .ok (some (RemoteTerminal.messages
      (Dict.getD m "request_id" .none) md statusWord dataFrames)) := by
  cases frames with
  | nil => cases h
  | cons f fs =>
    simp only [RemoteTerminal.plan, Value.truthy, Value.iterate, List.isEmpty_cons, Bool.not_false,
      if_true, bind, Except.bind, h, hmd]
    rfl

theorem decodeWords_length_le (count : ℕ) (words : List ℕ) :
    (decodeWords count words).length ≤ count := by
  rw [decodeWords, List.length_map, List.length_take]
  exact min_le_left _ _

section Trip

variable {objects : List Message} {cells : List Cell} (h : List.Forall₂ Represents objects cells)
  {m md : Message} (hmd : Dict.getD m "metadata" (.dict []) = .dict md) {statusWord : String}
  (hlength : statusWord.length = 20) (hstatus : startsWith statusWord "100" = true)

include h hmd hlength hstatus

/-- What the bus controller reads: with too many objects the count word is lost, and the next word is
taken for it. -/
theorem received_eq : received py m statusWord objects = .ok
    (if objects.length < 65536 then
      decodeWords objects.length (4191 :: cells.flatMap fun c => [c.position, c.attributes])
    else decodeWords (min 4191 objects.length) (cells.flatMap fun c => [c.position, c.attributes])) := by
  set ws := cells.flatMap fun c => [c.position, c.attributes] with hws
  have hscale : scaleWord = 4191 := by decide +kernel
  have hsmall : ∀ n ∈ 4191 :: ws, n < 65536 := by
    rw [List.forall_mem_cons]
    refine ⟨by norm_num, fun n hn => ?_⟩
    obtain ⟨c, -, hn⟩ := List.mem_flatMap.mp hn
    rcases List.mem_cons.mp hn with rfl | hn
    · exact c.position_lt
    · rw [List.mem_singleton.mp hn]
      exact c.attributes_lt
  have hwsLength : ws.length = 2 * objects.length := by
    rw [hws, List.length_flatMap, h.length_eq]
    simp
    omega
  have hencode : encodeComplexObjects py objects = objects.length :: 4191 :: ws := by
    rw [encodeComplexObjects, flatMap_objectWords h, hscale]
  have hvalid : validateFrames (wireFrames py statusWord objects) = .str statusWord ::
      ((if objects.length < 65536 then [objects.length] else []) ++ 4191 :: ws).map frameOf := by
    rw [wireFrames, hencode]
    exact validateFrames_wireFrames hlength hstatus hsmall
  set data := ((if objects.length < 65536 then [objects.length] else []) ++ 4191 :: ws).map frameOf
    with hdata
  set p := RemoteTerminal.messages (Dict.getD m "request_id" .none) md (.str statusWord) data
  have hp : p.WellFormed := RemoteTerminal.messages_wellFormed _ _ _ _
  have hword (i : ℕ) : isStatusWord (p.word i) = false := isStatusWord_wordOfInt i
  rw [received, dataMessages, plan_eq hmd hvalid]
  split_ifs at hdata ⊢ with hcount
  · have hextract := extract_words py hp hstatus hword hcount hsmall hdata
    rwa [List.length_cons, hwsLength, min_eq_left (by omega)] at hextract
  · have hextract := extract_words py hp hstatus hword (by norm_num)
      (fun n hn => hsmall n (List.mem_cons_of_mem _ hn)) hdata
    rwa [hwsLength, Nat.mul_div_cancel_left _ (by norm_num)] at hextract

/-- The objects arrive as they were, up to the quantum of the wire, exactly when their number fits into
a word and every one of them is the one object whose words are both the scale word. -/
theorem round_trip_iff :
    (∃ decoded, received py m statusWord objects = .ok decoded ∧
      List.Forall₂ Cell.Restores cells decoded) ↔
      objects.length < 65536 ∧ ∀ c ∈ cells, c.Stays := by
  have hwords : (wordPairs (4191 :: cells.flatMap fun c => [c.position, c.attributes])).length =
      objects.length := by
    rw [wordPairs_length, List.length_cons, List.length_flatMap, h.length_eq]
    simp
    omega
  rw [received_eq h hmd hlength hstatus]
  split_ifs with hcount
  · rw [decodeWords, List.take_of_length_le hwords.le, and_iff_right hcount, ← restored_iff]
    simp
  · refine iff_of_false ?_ fun hall => hcount hall.1
    rintro ⟨decoded, hdecoded, hrestored⟩
    have hle := decodeWords_length_le (min 4191 objects.length)
      (cells.flatMap fun c => [c.position, c.attributes])
    rw [Except.ok.inj hdecoded, ← hrestored.length_eq, ← h.length_eq] at hle
    have hmin := min_le_left 4191 objects.length
    omega

end Trip

def transferMessage : Message := [("request_id", .str "req-1"), ("metadata", .dict [])]

/-- The one cell that survives. -/
def snowCell : Cell where
  x := -112
  y := -33
  type := "snow"
  rate := 1 / 2
  intensity := 31 / 63
  x_range := by norm_num
  y_range := by norm_num
  type_known := by decide
  rate_range := by norm_num [maxCode, rateScale]
  intensity_range := by norm_num

def snowObject : Message :=
  [("position", .tuple [.float (-112), .float (-33)]), ("type", .str "snow"), ("rate", .float (1 / 2)),
    ("intensity", .float (31 / 63))]

theorem snow_restored : ∃ decoded,
    received .ascii transferMessage "10001001000000000000" [snowObject] = .ok decoded ∧
      List.Forall₂ Cell.Restores [snowCell] decoded := by
  have hrepresents : Represents snowObject snowCell :=
    ⟨⟨_, .float (-112), .float (-33), rfl, rfl, rfl, rfl⟩, rfl, rfl, rfl⟩
  refine (round_trip_iff (.cons hrepresents .nil) rfl (by decide) (by decide)).mpr
    ⟨by decide, ?_⟩
  rw [List.forall_mem_singleton]
  refine ⟨?_, ?_, rfl, ?_, ?_⟩ <;> norm_num [snowCell, rateScale, intensityScale]

def rainCell : Cell where
  x := 0
  y := 0
  type := "rain"
  rate := 10
  intensity := 1 / 2
  x_range := by norm_num
  y_range := by norm_num
  type_known := by decide
  rate_range := by norm_num [maxCode, rateScale]
  intensity_range := by norm_num

def rainObject : Message :=
  [("position", .tuple [.float 0, .float 0]), ("type", .str "rain"), ("rate", .float 10),
    ("intensity", .float (1 / 2))]

/-- Rain at the origin arrives at the place that the scale word names. -/
theorem rain_not_restored : Represents rainObject rainCell ∧ ¬∃ decoded,
    received .ascii transferMessage "10001001000000000000" [rainObject] = .ok decoded ∧
      List.Forall₂ Cell.Restores [rainCell] decoded := by
  refine ⟨⟨⟨_, .float 0, .float 0, rfl, rfl, rfl, rfl⟩, rfl, rfl, rfl⟩, ?_⟩
  rintro ⟨decoded, hdecoded, hrestored⟩
  have hread : received .ascii transferMessage "10001001000000000000" [rainObject] =
      .ok [precipitationObject 4191 32896] := by
    decide +kernel
  rw [hread] at hdecoded
  cases hdecoded
  obtain ⟨fields, hfields, hposition, -⟩ := (List.forall₂_cons.mp hrestored).1
  cases hfields
  revert hposition
  decide +kernel

end Fmofp.Precipitation
