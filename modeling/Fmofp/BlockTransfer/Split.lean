import Fmofp.BlockTransfer.Manager
import Fmofp.Machine.Loop

/-! `_split_oversized_frames` on bits: words that were put one after the other are found again, and what is found
in any string of bits are words at places that do not overlap. -/

namespace Fmofp.BlockTransfer

open Python

/-- A frame of the bus: twenty bits with a sync pattern and an odd number of ones. -/
structure ValidFrame (frame : List Char) : Prop where
  length : frame.length = 20
  binary : ∀ c ∈ frame, isBit c = true
  sync : frame.take 3 = Bus.commandSync ∨ frame.take 3 = Bus.dataSync
  parity : frame.count '1' % 2 = 1

/-! ### One frame -/

/-- Of twenty bits the last is the parity bit exactly when the number of ones is odd. -/
theorem validateParity_iff {frame : List Char} (hlength : frame.length = 20) (hbits : ∀ c ∈ frame, isBit c = true) :
    validateParity frame = true ↔ frame.count '1' % 2 = 1 := by
  obtain ⟨body, c, rfl⟩ : ∃ body c, frame = body ++ [c] := by
    rcases List.eq_nil_or_concat frame with rfl | ⟨body, c, hframe⟩
    · exact absurd hlength (by decide)
    · exact ⟨body, c, by rw [hframe, List.concat_eq_append]⟩
  have hbody : body.length = 19 := by
    rw [List.length_append, List.length_singleton] at hlength
    omega
  have hget : (body ++ [c])[19]? = some c := by
    rw [List.getElem?_append_right (by omega), hbody]
    rfl
  unfold validateParity Bus.calculateParity
  rw [List.take_left' hbody, hget, decide_eq_true hlength, Bool.true_and, beq_iff_eq, Option.some_inj,
    List.count_append]
  have hc : c = '0' ∨ c = '1' := by
    have hbit := hbits c (by simp)
    simpa [isBit] using hbit
  rcases hc with rfl | rfl
  · rw [show List.count '1' ['0'] = 0 from rfl]
    split_ifs with heven
    · simp only [Char.reduceEq, false_iff]
      omega
    · simp only [true_iff]
      omega
  · rw [show List.count '1' ['1'] = 1 from rfl]
    split_ifs with heven
    · simp only [true_iff]
      omega
    · simp only [Char.reduceEq, false_iff]
      omega

/-- Whether a frame begins here: a sync pattern, and a parity bit that is right. -/
def beginsFrame (bits : List Char) : Bool :=
  (Bus.commandSync.isPrefixOf bits || Bus.dataSync.isPrefixOf bits) && validateParity (bits.take 20)

theorem isPrefixOf_iff_take {sync bits : List Char} (hsync : sync.length = 3) :
    sync.isPrefixOf bits = true ↔ bits.take 3 = sync := by
  rw [List.isPrefixOf_iff_prefix, List.prefix_iff_eq_take, hsync, eq_comm]

theorem beginsFrame_iff {bits : List Char} (hlength : 20 ≤ bits.length) (hbits : ∀ c ∈ bits, isBit c = true) :
    beginsFrame bits = true ↔ ValidFrame (bits.take 20) := by
  have htake : (bits.take 20).length = 20 := by
    rw [List.length_take]
    omega
  have hbinary : ∀ c ∈ bits.take 20, isBit c = true := fun c hc => hbits c (List.mem_of_mem_take hc)
  have hsync : (bits.take 20).take 3 = bits.take 3 := by
    rw [List.take_take]
    rfl
  unfold beginsFrame
  rw [Bool.and_eq_true, Bool.or_eq_true, validateParity_iff htake hbinary, isPrefixOf_iff_take rfl,
    isPrefixOf_iff_take rfl, ← hsync]
  exact ⟨fun h => ⟨htake, hbinary, h.1, h.2⟩, fun h => ⟨h.sync, h.parity⟩⟩

/-! ### The scan -/

/-- The scan finds the frame that begins here and goes on behind it. -/
theorem scanFrames_of_begins {bits : List Char} (hlength : 20 ≤ bits.length) (hbegins : beginsFrame bits = true)
    (fuel : ℕ) :
    scanFrames (fuel + 1) bits = .str (String.ofList (bits.take 20)) :: scanFrames fuel (bits.drop 20) := by
  rw [scanFrames, if_neg (by omega)]
  exact if_pos hbegins

theorem scanFrames_of_not_begins {bits : List Char} (hlength : 20 ≤ bits.length) (hbegins : beginsFrame bits ≠ true)
    (fuel : ℕ) : scanFrames (fuel + 1) bits = scanFrames fuel bits.tail := by
  rw [scanFrames, if_neg (by omega)]
  exact if_neg hbegins

theorem scanFrames_of_short {bits : List Char} (hlength : bits.length < 20) (fuel : ℕ) :
    scanFrames fuel bits = [] := by
  cases fuel with
  | zero => rfl
  | succ fuel => rw [scanFrames, if_pos hlength]

/-- More fuel than characters makes no difference. -/
theorem scanFrames_fuel {fuel fuel' : ℕ} {bits : List Char} (h : bits.length ≤ fuel) (h' : bits.length ≤ fuel') :
    scanFrames fuel bits = scanFrames fuel' bits := by
  induction fuel generalizing fuel' bits with
  | zero => rw [scanFrames_of_short (by omega), scanFrames_of_short (by omega)]
  | succ fuel ih =>
    by_cases hshort : bits.length < 20
    · rw [scanFrames_of_short hshort, scanFrames_of_short hshort]
    · obtain ⟨fuel', rfl⟩ : ∃ n, fuel' = n + 1 := ⟨fuel' - 1, by omega⟩
      have hdrop : (bits.drop 20).length = bits.length - 20 := List.length_drop
      have htail : bits.tail.length = bits.length - 1 := List.length_tail
      by_cases hbegins : beginsFrame bits = true
      · rw [scanFrames_of_begins (by omega) hbegins, scanFrames_of_begins (by omega) hbegins,
          @ih fuel' (bits.drop 20) (by omega) (by omega)]
      · rw [scanFrames_of_not_begins (by omega) hbegins, scanFrames_of_not_begins (by omega) hbegins]
        apply ih <;> omega

/-- Valid frames one after the other are found again. -/
theorem scanFrames_flatMap {frames : List String} (h : ∀ f ∈ frames, ValidFrame f.toList) {fuel : ℕ}
    (hfuel : (frames.flatMap String.toList).length ≤ fuel) :
    scanFrames fuel (frames.flatMap String.toList) = frames.map .str := by
  induction frames generalizing fuel with
  | nil => rw [List.flatMap_nil, scanFrames_of_short (by decide), List.map_nil]
  | cons f frames ih =>
    have hf : ValidFrame f.toList := h f List.mem_cons_self
    have hlength := hf.length
    rw [List.flatMap_cons, List.length_append] at hfuel
    obtain ⟨fuel, rfl⟩ : ∃ n, fuel = n + 1 := ⟨fuel - 1, by omega⟩
    set rest := frames.flatMap String.toList with hrest
    have htake : (f.toList ++ rest).take 20 = f.toList := List.take_left' hlength
    have hdrop : (f.toList ++ rest).drop 20 = rest := List.drop_left' hlength
    have hlong : 20 ≤ (f.toList ++ rest).length := by
      rw [List.length_append]
      omega
    have hbits : ∀ c ∈ f.toList ++ rest, isBit c = true := by
      intro c hc
      rcases List.mem_append.mp hc with hc | hc
      · exact hf.binary c hc
      · obtain ⟨g, hg, hcg⟩ := List.mem_flatMap.mp hc
        exact (h g (List.mem_cons_of_mem _ hg)).binary c hcg
    have hbegins : beginsFrame (f.toList ++ rest) = true := by
      rw [beginsFrame_iff hlong hbits, htake]
      exact hf
    rw [List.flatMap_cons, scanFrames_of_begins hlong hbegins, htake, hdrop, String.ofList_toList, List.map_cons,
      ih (fun g hg => h g (List.mem_cons_of_mem _ hg)) (by omega)]

/-! ### The loop -/

/-- The variables of the `while` loop. -/
structure Scan where
  pos : ℕ
  extractedFrames : List Value

/-- The twenty bits from a place on. -/
def frameAt (bits : List Char) (place : ℕ) : List Char := (bits.drop place).take 20

/-- One round of the loop, which runs as long as twenty bits are left. -/
def scanRound (bits : List Char) (s : Scan) : Option Scan :=
  if s.pos + 20 ≤ bits.length then
    if beginsFrame (bits.drop s.pos) then
      some ⟨s.pos + 20, s.extractedFrames ++ [.str (String.ofList (frameAt bits s.pos))]⟩
    else some ⟨s.pos + 1, s.extractedFrames⟩
  else none

/-- What has been found: frames at places that do not overlap, all before the position of the loop. -/
structure Scanned (bits : List Char) (s : Scan) : Prop where
  found : ∃ places : List ℕ, s.extractedFrames = places.map (fun p => .str (String.ofList (frameAt bits p))) ∧
    places.Pairwise (fun p q => p + 20 ≤ q) ∧ ∀ p ∈ places, p + 20 ≤ s.pos ∧ ValidFrame (frameAt bits p)
  inside : s.pos ≤ bits.length
  rest : s.extractedFrames ++ scanFrames (bits.length - s.pos) (bits.drop s.pos) = scanFrames bits.length bits

section Loop

variable {bits : List Char}

theorem scanned_start (bits : List Char) : Scanned bits ⟨0, []⟩ :=
  ⟨⟨[], rfl, .nil, by simp⟩, Nat.zero_le _, rfl⟩

/-- A round keeps what has been found and takes the position on. -/
theorem scanned_round (hbits : ∀ c ∈ bits, isBit c = true) {s s' : Scan} (h : Scanned bits s)
    (hround : scanRound bits s = some s') :
    Scanned bits s' ∧ bits.length - s'.pos < bits.length - s.pos := by
  obtain ⟨⟨places, hfound, hapart, hbefore⟩, -, hrest⟩ := h
  unfold scanRound at hround
  split_ifs at hround with hlength hbegins
  · -- a frame: the position goes behind it
    cases hround
    dsimp only
    have hdropLength : (bits.drop s.pos).length = bits.length - s.pos := List.length_drop
    have hvalid : ValidFrame (frameAt bits s.pos) :=
      (beginsFrame_iff (by omega) fun c hc => hbits c (List.mem_of_mem_drop hc)).mp hbegins
    refine ⟨⟨⟨places ++ [s.pos], ?_, ?_, ?_⟩, hlength, ?_⟩, by omega⟩
    · rw [hfound, List.map_append, List.map_singleton]
    · rw [List.pairwise_append]
      refine ⟨hapart, List.pairwise_singleton _ _, fun p hp q hq => ?_⟩
      rw [List.mem_singleton.mp hq]
      exact (hbefore p hp).1
    · intro p hp
      dsimp only
      rcases List.mem_append.mp hp with hp | hp
      · obtain ⟨hle, hp⟩ := hbefore p hp
        exact ⟨by omega, hp⟩
      · rw [List.mem_singleton.mp hp]
        exact ⟨le_refl _, hvalid⟩
    · dsimp only
      obtain ⟨fuel, hfuel⟩ : ∃ n, bits.length - s.pos = n + 1 := ⟨bits.length - s.pos - 1, by omega⟩
      rw [hfuel, scanFrames_of_begins (by omega) hbegins, List.drop_drop] at hrest
      rw [← hrest, List.append_assoc, List.singleton_append, frameAt]
      congr 2
      apply scanFrames_fuel
      · rw [List.length_drop]
      · rw [List.length_drop]
        omega
  · -- no frame: one bit on
    cases hround
    dsimp only
    have hdropLength : (bits.drop s.pos).length = bits.length - s.pos := List.length_drop
    refine ⟨⟨⟨places, hfound, hapart, fun p hp => ?_⟩, by dsimp only; omega, ?_⟩, by omega⟩ <;> dsimp only
    · obtain ⟨hle, hp⟩ := hbefore p hp
      exact ⟨by omega, hp⟩
    · obtain ⟨fuel, hfuel⟩ : ∃ n, bits.length - s.pos = n + 1 := ⟨bits.length - s.pos - 1, by omega⟩
      rw [hfuel, scanFrames_of_not_begins (by omega) hbegins, List.tail_drop] at hrest
      rw [← hrest]
      congr 1
      apply scanFrames_fuel
      · rw [List.length_drop]
      · rw [List.length_drop]
        omega

/-- The loop ends, with the frames that the scan finds. -/
theorem scan_ends (hbits : ∀ c ∈ bits, isBit c = true) :
    ∃ last, Machine.whileLoop (scanRound bits) bits.length ⟨0, []⟩ = some last ∧ Scanned bits last ∧
      last.extractedFrames = scanFrames bits.length bits := by
  obtain ⟨last, hrun, hlast, hdone⟩ := Machine.whileLoop_invariant (Scanned bits) (fun s => bits.length - s.pos)
    (fun s s' hs hround => scanned_round hbits hs hround) (scanned_start bits) (le_refl bits.length)
  refine ⟨last, hrun, hlast, ?_⟩
  have hshort : ¬last.pos + 20 ≤ bits.length := by
    intro hlength
    unfold scanRound at hdone
    rw [if_pos hlength] at hdone
    split_ifs at hdone
  have hrest := hlast.rest
  rw [scanFrames_of_short (by rw [List.length_drop]; omega), List.append_nil] at hrest
  exact hrest

end Loop

/-! ### Text -/

/-- Bits are no dictionary, and more than twenty of them are scanned. -/
theorem splitOversizedFrames_of_isBinary (py : Runtime) {s : String} (hs : isBinary s = true) (hlength : 20 < s.length) :
    splitOversizedFrames py s = .ok (scanFrames s.length s.toList) := by
  have hnone : framesOfJson py s = .ok [] := by
    unfold framesOfJson
    rw [if_neg]
    rw [Bool.and_eq_true, not_and]
    intro hopen
    rw [startsWith, List.isPrefixOf_iff_prefix] at hopen
    obtain ⟨rest, hrest⟩ := hopen
    have hbrace : isBit '\x7b' = true := List.all_eq_true.mp hs _ (by rw [← hrest]; exact List.mem_cons_self)
    exact absurd hbrace (by decide)
  unfold splitOversizedFrames
  rw [hnone]
  show Except.ok (if !isBinary s || decide (s.length ≤ 20) then [.str s] else scanFrames s.length s.toList) = _
  rw [hs, decide_eq_false (by omega), if_neg (by decide)]

/-- Two or more valid frames one after the other are split into these frames.  Any longer string of bits is scanned
in a loop that ends, with valid frames at increasing places that do not overlap. -/
theorem split_oversized_frames (py : Runtime) :
    (∀ frames : List String, 2 ≤ frames.length → (∀ f ∈ frames, ValidFrame f.toList) →
      splitOversizedFrames py (String.join frames) = .ok (frames.map .str)) ∧
    ∀ s : String, isBinary s = true → 20 < s.length →
      ∃ (last : Scan) (places : List ℕ), Machine.whileLoop (scanRound s.toList) s.length ⟨0, []⟩ = some last ∧
        splitOversizedFrames py s = .ok last.extractedFrames ∧
        last.extractedFrames = places.map (fun p => .str (String.ofList (frameAt s.toList p))) ∧
        places.Pairwise (fun p q => p + 20 ≤ q) ∧
        ∀ p ∈ places, p + 20 ≤ s.length ∧ ValidFrame (frameAt s.toList p) := by
  constructor
  · intro frames htwo hframes
    have hchars : (String.join frames).toList = frames.flatMap String.toList := String.toList_join
    have hbinary : isBinary (String.join frames) = true := by
      rw [isBinary, List.all_eq_true, hchars]
      intro c hc
      obtain ⟨f, hf, hcf⟩ := List.mem_flatMap.mp hc
      exact (hframes f hf).binary c hcf
    have hlong : 20 < (String.join frames).length := by
      obtain ⟨f, g, rest, rfl⟩ : ∃ f g rest, frames = f :: g :: rest := by
        rcases frames with _ | ⟨f, _ | ⟨g, rest⟩⟩
        · simp at htwo
        · simp at htwo
        · exact ⟨f, g, rest, rfl⟩
      have hf := (hframes f (by simp)).length
      have hg := (hframes g (by simp)).length
      rw [← String.length_toList, hchars, List.flatMap_cons, List.flatMap_cons, List.length_append,
        List.length_append]
      omega
    rw [splitOversizedFrames_of_isBinary py hbinary hlong, hchars, scanFrames_flatMap hframes]
    rw [← hchars, String.length_toList]
  · intro s hs hlength
    obtain ⟨last, hrun, hlast, hframes⟩ := scan_ends (List.all_eq_true.mp hs)
    obtain ⟨places, hfound, hapart, hbefore⟩ := hlast.found
    have hinside := hlast.inside
    rw [String.length_toList] at hrun hframes hinside
    refine ⟨last, places, hrun, ?_, hfound, hapart, fun p hp => ?_⟩
    · rw [splitOversizedFrames_of_isBinary py hs hlength, hframes]
    · obtain ⟨hle, hvalid⟩ := hbefore p hp
      exact ⟨by omega, hvalid⟩

theorem split_oversized_frames_command_data :
    splitOversizedFrames .ascii (String.join ["10000101110001000010", "00100000000000001010"]) =
      .ok [.str "10000101110001000010", .str "00100000000000001010"] := by
  have hcommand : ValidFrame "10000101110001000010".toList :=
    ⟨by decide, List.all_eq_true.mp (by decide +kernel), .inl rfl, by decide⟩
  have hdata : ValidFrame "00100000000000001010".toList :=
    ⟨by decide, List.all_eq_true.mp (by decide +kernel), .inr rfl, by decide⟩
  apply (split_oversized_frames .ascii).1 ["10000101110001000010", "00100000000000001010"] (by decide)
  intro f hf
  rcases List.mem_cons.mp hf with rfl | hf
  · exact hcommand
  · rw [List.mem_singleton.mp hf]
    exact hdata

end Fmofp.BlockTransfer
