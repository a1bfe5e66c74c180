import Fmofp.Machine.Run
import Fmofp.Machine.Windows
import Fmofp.Python.Dict

/-! The limit on the rate of queries.  A call counts itself in the window of its type; one that finds the
window old enough opens a new one, and one that is too many sleeps until the window is old enough and
then opens a new one. -/

namespace Fmofp.Storage

open Python Machine Machine.Windows

/-- An entry of `config['query_rates']`; `duration` is in seconds. -/
structure RateConfig where
  limit : ℚ
  duration : ℚ
  deriving Repr, DecidableEq

structure RateTracker where
  lastReset : ℚ
  count : ℕ
  deriving Repr, DecidableEq

/-- What `SystemDatabase` keeps of the rates, and the time. -/
structure RateLimiter where
  queryRates : Dict String RateConfig
  queryRateTracker : Dict String RateTracker := []
  clock : ℚ
  deriving Repr, DecidableEq

/-- The time that passes around the readings of the clock in one call. -/
structure RateCall where
  /-- From the end of the last call to the tracker of this one. -/
  before : ℚ≥0
  /-- From the tracker, which is made with a time of its own where it is missing, to `now`. -/
  reading : ℚ≥0
  /-- What the sleep, if there is one, takes more than it was asked for. -/
  oversleep : ℚ≥0
  /-- From the last reading to the return. -/
  after : ℚ≥0

/-- `rate_limit_query`, with the windows that it opens (one whose tracker it makes opens too) and its
return. -/
def rateLimitQuery (queryType : String) (db : RateLimiter) (call : RateCall) :
    List (WindowEvent ℚ) × RateLimiter :=
  let start := db.clock + call.before
  match Dict.get? db.queryRates queryType with
  | none => ([.occurs (start + call.after)], { db with clock := start + call.after })
  | some config =>
    let made := match Dict.get? db.queryRateTracker queryType with
      | some _ => []
      | none => [.opens start]
    let tracker := (Dict.get? db.queryRateTracker queryType).getD ⟨start, 0⟩
    let now := start + call.reading
    let elapsedTime := now - tracker.lastReset
    let leave (events : List (WindowEvent ℚ)) (last : ℚ) (tracker : RateTracker) :=
      (made ++ events ++ [.occurs (last + call.after)],
        { db with
          queryRateTracker := Dict.set db.queryRateTracker queryType tracker
          clock := last + call.after })
    if elapsedTime ≥ config.duration then leave [.opens now] now ⟨now, 1⟩
    else if (tracker.count : ℚ) + 1 > config.limit then
      let woken := now + (config.duration - elapsedTime + 1) + call.oversleep
      leave [.opens woken] woken ⟨woken, 1⟩
    else leave [] now ⟨tracker.lastReset, tracker.count + 1⟩

/-- A database as it is made: nothing was queried yet. -/
def RateLimiter.new (queryRates : Dict String RateConfig) (clock : ℚ) : RateLimiter :=
  { queryRates, clock }

/-- What happens in the calls of one type, one after the other. -/
def rateHistory (queryType : String) (db : RateLimiter) (calls : List RateCall) :
    List (WindowEvent ℚ) :=
  (outputs (rateLimitQuery queryType) db calls).flatten

/-- What the rate asks of a history: no more than `limit` calls return before the next window opens, the
windows open `duration` apart, and any half-open interval of that length has `2 * limit` returns at most. -/
structure RateConfig.Kept (config : RateConfig) (history : List (WindowEvent ℚ)) : Prop where
  window : ∀ before opened (returns : List ℚ) after,
    history = before ++ .opens opened :: (returns.map .occurs ++ after) →
      (returns.length : ℚ) ≤ config.limit
  apart : ∀ before opened (returns : List ℚ) next after,
    history = before ++ .opens opened :: (returns.map .occurs ++ .opens next :: after) →
      opened + config.duration ≤ next
  interval : ∀ start,
    (occurrences start (start + config.duration) history : ℚ) ≤ 2 * config.limit

/-- A call in a window that is known: what it does next is in order, and the history goes on from what
it leaves. -/
theorem rateLimitQuery_windowed {queryType : String} {config : RateConfig} (hlimit : 1 ≤ config.limit)
    {db : RateLimiter} (hconfig : Dict.get? db.queryRates queryType = some config)
    {tracker : RateTracker} (htracker : Dict.get? db.queryRateTracker queryType = some tracker)
    (call : RateCall) :
    ∃ tracker', Dict.get? (rateLimitQuery queryType db call).2.queryRateTracker queryType = some tracker' ∧
      Dict.get? (rateLimitQuery queryType db call).2.queryRates queryType = some config ∧
      ∀ rest, Windowed config.duration ⌊config.limit⌋₊ (rateLimitQuery queryType db call).2.clock
          tracker'.lastReset tracker'.count rest →
        Windowed config.duration ⌊config.limit⌋₊ db.clock tracker.lastReset tracker.count
          ((rateLimitQuery queryType db call).1 ++ rest) := by
  have hbefore : (0 : ℚ) ≤ call.before := call.before.2
  have hreading : (0 : ℚ) ≤ call.reading := call.reading.2
  have hover : (0 : ℚ) ≤ call.oversleep := call.oversleep.2
  have hafter : (0 : ℚ) ≤ call.after := call.after.2
  have hone : 0 + 1 ≤ ⌊config.limit⌋₊ := Nat.le_floor (by simpa using hlimit)
  rw [rateLimitQuery, hconfig, htracker]
  simp only [Option.getD_some, List.nil_append]
  split_ifs with helapsed hmany
  · refine ⟨_, Dict.get?_set_self _ _ _, hconfig, fun rest hrest => ?_⟩
    refine ⟨by linarith, by linarith, by linarith, hone, hrest⟩
  · refine ⟨_, Dict.get?_set_self _ _ _, hconfig, fun rest hrest => ?_⟩
    refine ⟨by linarith, by linarith, by linarith, hone, hrest⟩
  · refine ⟨_, Dict.get?_set_self _ _ _, hconfig, fun rest hrest => ⟨by linarith, ?_, hrest⟩⟩
    exact Nat.le_floor (by push_cast; linarith)

theorem rateHistory_windowed {queryType : String} {config : RateConfig} (hlimit : 1 ≤ config.limit)
    (db : RateLimiter) (hconfig : Dict.get? db.queryRates queryType = some config)
    {tracker : RateTracker} (htracker : Dict.get? db.queryRateTracker queryType = some tracker)
    (calls : List RateCall) :
    Windowed config.duration ⌊config.limit⌋₊ db.clock tracker.lastReset tracker.count
      (rateHistory queryType db calls) := by
  induction calls generalizing db tracker with
  | nil => trivial
  | cons call calls ih =>
    obtain ⟨tracker', htracker', hconfig', hgoes⟩ :=
      rateLimitQuery_windowed hlimit hconfig htracker call
    exact hgoes _ (ih _ hconfig' htracker')

/-- The database as it is when it has made the tracker of a type. -/
def RateLimiter.tracking (db : RateLimiter) (queryType : String) (time : ℚ) : RateLimiter :=
  { db with queryRateTracker := Dict.set db.queryRateTracker queryType ⟨time, 0⟩, clock := time }

/-- A call that makes the tracker goes on as if the window had just opened. -/
theorem rateHistory_of_missing {queryType : String} {config : RateConfig} {db : RateLimiter}
    (hconfig : Dict.get? db.queryRates queryType = some config)
    (hmissing : Dict.get? db.queryRateTracker queryType = none) (call : RateCall)
    (calls : List RateCall) :
    rateHistory queryType db (call :: calls) =
      .opens (db.clock + call.before) ::
        rateHistory queryType (db.tracking queryType (db.clock + call.before))
          ({ call with before := 0 } :: calls) := by
  rw [rateHistory, rateHistory, outputs_cons, outputs_cons, List.flatten_cons, List.flatten_cons,
    rateLimitQuery, rateLimitQuery]
  simp only [hconfig, hmissing, RateLimiter.tracking, Dict.get?_set_self, Option.getD_none, Option.getD_some, Dict.set_set_self, NNRat.cast_zero,
    add_zero]
  split_ifs <;> rfl

/-- A history of calls begins with the window that the first of them opens. -/
theorem rateHistory_new {queryType : String} {config : RateConfig} (hlimit : 1 ≤ config.limit)
    {queryRates : Dict String RateConfig} (hconfig : Dict.get? queryRates queryType = some config)
    (clock : ℚ) (calls : List RateCall) :
    ∃ time last, Windowed config.duration ⌊config.limit⌋₊ time last 0
      (rateHistory queryType (.new queryRates clock) calls) := by
  cases calls with
  | nil => exact ⟨clock, clock, trivial⟩
  | cons call calls =>
    let db : RateLimiter := .new queryRates clock
    rw [show RateLimiter.new queryRates clock = db from rfl, rateHistory_of_missing hconfig rfl]
    refine ⟨clock + call.before, clock + call.before - config.duration, le_refl _, ?_, ?_⟩
    · exact (sub_add_cancel _ _).le
    · exact rateHistory_windowed hlimit (db.tracking queryType (clock + call.before)) hconfig
        (Dict.get?_set_self _ _ _) _

theorem RateConfig.kept_of_windowed {config : RateConfig} (hlimit : 1 ≤ config.limit) {clock last : ℚ}
    {history : List (WindowEvent ℚ)}
    (h : Windowed config.duration ⌊config.limit⌋₊ clock last 0 history) : config.Kept history := by
  have hfloor : (⌊config.limit⌋₊ : ℚ) ≤ config.limit := Nat.floor_le (by linarith)
  refine ⟨?_, ?_, fun start => ?_⟩
  · rintro before opened returns after rfl
    have hfew := (h.opened.occurred (Nat.zero_le _)).1
    rw [Nat.zero_add] at hfew
    exact (Nat.cast_le.mpr hfew).trans hfloor
  · rintro before opened returns next after rfl
    obtain ⟨-, clock', hnext⟩ := h.opened.occurred (Nat.zero_le _)
    exact hnext.2.1
  · have hfew := h.occurrences_le (Nat.zero_le _) start
    have hcast : (occurrences start (start + config.duration) history : ℚ) ≤ 2 * ⌊config.limit⌋₊ := by
      exact_mod_cast hfew
    linarith

/-- However the calls of one type follow each other, their rate is kept: no more than `limit` of them
return in a window, the windows open `duration` apart, and any half-open interval of that length has at
most `2 * limit` returns. -/
theorem rate_limit_kept {queryRates : Dict String RateConfig} {queryType : String}
    {config : RateConfig} (hconfig : Dict.get? queryRates queryType = some config)
    (hlimit : 1 ≤ config.limit) (clock : ℚ) (calls : List RateCall) :
    config.Kept (rateHistory queryType (.new queryRates clock) calls) := by
  obtain ⟨_, _, hwindowed⟩ := rateHistory_new hlimit hconfig clock calls
  exact RateConfig.kept_of_windowed hlimit hwindowed

/-- Two queries a second: the third call sleeps. -/
theorem two_reads_kept :
    RateConfig.Kept ⟨2, 1⟩ (rateHistory "read" (.new [("read", ⟨2, 1⟩)] 0)
      [⟨1 / 10, 0, 0, 0⟩, ⟨1 / 10, 0, 0, 0⟩, ⟨1 / 10, 0, 0, 0⟩]) :=
  rate_limit_kept rfl (by norm_num) 0 _

end Fmofp.Storage
