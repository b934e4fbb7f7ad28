import PilotingMavsdk.Proofs.TimesyncLink

/-! The sums and differences of `process_timesync` and `shift_time_by` in 64 bits. The numbers that
come with a message are used before the round trip time is looked at. -/

namespace PilotingMavsdk
open Library

namespace Timesync

/-- No signed operation on the way through `process_timesync` leaves its range: the sums in `now`,
the three operations on the message's times, and the sum in `shift_time_by`. -/
structure NoOverflow (systemTime laterTime : Int) (message : TimesyncMessage)
    (timesync : Timesync) : Prop where
  now : InInt64 (systemTime + timesync.offset)
  twice : 0 < message.tc1 → InInt64 (message.tc1 * 2)
  sum : 0 < message.tc1 → InInt64 (message.ts1 + timesync.autopilotNow systemTime)
  difference : 0 < message.tc1 →
    InInt64 (message.tc1 * 2 - (message.ts1 + timesync.autopilotNow systemTime))
  later : 0 < message.tc1 → InInt64 (laterTime + timesync.offset)
  shifted : InInt64 (timesync.processTimesync systemTime laterTime message).1.offset

/-- The autopilot's clock is within its range, and so are the times of an answer. -/
def WithinRange (timesync : Timesync) : TimesyncCall → Prop
  | .enable | .doWork _ _ _ => True
  | .processTimesync message systemTime laterTime => systemTime + timesync.offset < 2 ^ 63 ∧
      (0 < message.tc1 → laterTime + timesync.offset < 2 ^ 63 ∧ message.tc1 < 2 ^ 62 ∧
        message.tc1 * 2 - 2 ^ 63 < message.ts1 + timesync.autopilotNow systemTime ∧
        message.ts1 + timesync.autopilotNow systemTime < 2 ^ 63)

def OffsetInRange (timesync : Timesync) : Prop :=
  -(2 ^ 63 - 20000000) ≤ timesync.offset ∧ timesync.offset ≤ 2 ^ 62 + 5001000

theorem tdiv_eq_ite (number divisor : Int) :
    number.tdiv divisor = if 0 ≤ number then number / divisor else -(-number / divisor) := by
  split
  next nonneg => exact Int.tdiv_eq_ediv_of_nonneg nonneg
  next negative =>
    have opposite : 0 ≤ -number := by omega
    rw [← Int.tdiv_eq_ediv_of_nonneg opposite, Int.neg_tdiv, Int.neg_neg]

/-- The autopilot's time is cut to microseconds, towards zero. -/
private theorem autopilotNow_bounds (systemTime : Int) (timesync : Timesync) :
    systemTime + timesync.offset - 999 ≤ timesync.autopilotNow systemTime ∧
      timesync.autopilotNow systemTime ≤ max 0 (systemTime + timesync.offset) ∧
      min 0 (systemTime + timesync.offset) ≤ timesync.autopilotNow systemTime := by
  rw [autopilotNow, tdiv_eq_ite]
  split <;> omega

theorem autopilotNow_near (systemTime : Int) (timesync : Timesync) :
    systemTime + timesync.offset - 999 ≤ timesync.autopilotNow systemTime ∧
      timesync.autopilotNow systemTime ≤ systemTime + timesync.offset + 999 := by
  rw [autopilotNow, tdiv_eq_ite]
  split <;> omega

/-- A step leaves the offset as it is, or it is an answer whose round trip took less than the
limit. -/
private theorem offset_processTimesync (systemTime laterTime : Int) (message : TimesyncMessage)
    (timesync : Timesync) :
    (timesync.processTimesync systemTime laterTime message).1.offset = timesync.offset ∨
      0 < message.tc1 ∧
        (timesync.autopilotNow laterTime - message.ts1) % 2 ^ 64 < maxRttSample ∧
        (timesync.processTimesync systemTime laterTime message).1.offset = timesync.offset +
          (message.tc1 * 2 - (message.ts1 + timesync.autopilotNow systemTime)).tdiv 2 := by
  simp only [processTimesync, setTimesyncOffset]
  split
  · exact .inl rfl
  · split
    next answer =>
      split
      next quick => exact .inr ⟨answer, quick, rfl⟩
      · exact .inl rfl
    · exact .inl rfl

private theorem offsetInRange_processTimesync {systemTime laterTime : Int}
    {message : TimesyncMessage}
    {timesync : Timesync} (range : timesync.OffsetInRange) (clock : ClockTime systemTime)
    (laterClock : ClockTime laterTime) (sent : InInt64 message.ts1)
    (within : timesync.WithinRange (.processTimesync message systemTime laterTime)) :
    (timesync.processTimesync systemTime laterTime message).1.OffsetInRange := by
  rcases offset_processTimesync systemTime laterTime message timesync with same | shift
  · rwa [OffsetInRange, same]
  · obtain ⟨answer, quick, shifted⟩ := shift
    obtain ⟨laterFits, small, -, -⟩ := within.2 answer
    have now := autopilotNow_bounds systemTime timesync
    have later := autopilotNow_bounds laterTime timesync
    rw [OffsetInRange, shifted, tdiv_eq_ite]
    simp only [OffsetInRange, ClockTime, InInt64, maxRttSample] at *
    have begun : message.ts1 ≤ timesync.autopilotNow laterTime ∧
        timesync.autopilotNow laterTime < message.ts1 + 10000000 := by
      omega
    clear quick
    split <;> omega

/-- Given that the offset is one that samples have led to, it stays in range by itself. -/
private theorem noOverflow_iff_withinRange {systemTime laterTime : Int} {message : TimesyncMessage}
    {timesync : Timesync} (range : timesync.OffsetInRange) (clock : ClockTime systemTime)
    (laterClock : ClockTime laterTime) (sent : InInt64 message.ts1) :
    timesync.NoOverflow systemTime laterTime message ↔
      timesync.WithinRange (.processTimesync message systemTime laterTime) := by
  have now := autopilotNow_bounds systemTime timesync
  constructor
  · intro fits
    refine ⟨fits.now.2, ?_⟩
    intro answer
    have twice := fits.twice answer
    have difference := fits.difference answer
    refine ⟨(fits.later answer).2, ?_, ?_, (fits.sum answer).2⟩
    · rw [InInt64] at twice
      omega
    · rw [InInt64] at difference
      omega
  · intro within
    have next := offsetInRange_processTimesync range clock laterClock sent within
    obtain ⟨nowFits, answered⟩ := within
    simp only [OffsetInRange, ClockTime, InInt64] at range clock laterClock sent next
    refine ⟨?_, ?_, ?_, ?_, ?_, ?_⟩
    · rw [InInt64]
      omega
    · intro answer
      obtain ⟨-, small, -, -⟩ := answered answer
      rw [InInt64]
      omega
    · intro answer
      obtain ⟨-, -, above, below⟩ := answered answer
      rw [InInt64]
      omega
    · intro answer
      obtain ⟨-, small, above, below⟩ := answered answer
      rw [InInt64]
      omega
    · intro answer
      obtain ⟨laterFits, -, -, -⟩ := answered answer
      rw [InInt64]
      omega
    · rw [InInt64]
      omega

/-- Nothing overflows in this call. -/
def Fits (timesync : Timesync) : TimesyncCall → Prop
  | .enable | .doWork _ _ _ => True
  | .processTimesync message systemTime laterTime =>
    timesync.NoOverflow systemTime laterTime message

private theorem offset_doWork (steadyTime systemTime : Int) (connected : Bool)
    (timesync : Timesync) :
    (timesync.doWork steadyTime systemTime connected).1.offset = timesync.offset := by
  unfold doWork
  split
  · rfl
  · split
    · split <;> rfl
    · rfl

private theorem fits_iff_withinRange (taken : Taken Timesync TimesyncCall TimesyncMessage)
    (legal : receiver.Legal taken) (range : taken.before.OffsetInRange) :
    taken.before.Fits taken.action ↔ taken.before.WithinRange taken.action := by
  obtain ⟨before, call, after, messages⟩ := taken
  cases call with
  | enable | doWork => exact Iff.rfl
  | processTimesync message systemTime laterTime =>
    simp only [Machine.Legal, receiver] at legal
    split at legal
    next possible =>
      obtain ⟨-, ⟨-, sent⟩, clock, laterClock⟩ := possible
      exact noOverflow_iff_withinRange range clock laterClock sent
    · cases legal

private theorem offsetInRange_of_fits (taken : Taken Timesync TimesyncCall TimesyncMessage)
    (legal : receiver.Legal taken) (range : taken.before.OffsetInRange)
    (fits : taken.before.Fits taken.action) : taken.after.OffsetInRange := by
  have within := (fits_iff_withinRange taken legal range).mp fits
  obtain ⟨before, call, after, messages⟩ := taken
  simp only [Machine.Legal, receiver] at legal
  cases call with
  | enable =>
    cases legal
    exact range
  | doWork steadyTime systemTime connected =>
    have same := offset_doWork steadyTime systemTime connected before
    rw [Option.some.inj legal] at same
    rwa [OffsetInRange, same]
  | processTimesync message systemTime laterTime =>
    simp only at legal
    split at legal
    next possible =>
      obtain ⟨-, ⟨-, sent⟩, clock, laterClock⟩ := possible
      have next := offsetInRange_processTimesync range clock laterClock sent within
      rwa [Option.some.inj legal] at next
    · cases legal

/-- Whatever messages come in, and whichever of them are accepted: nothing overflows in a run if
and only if the autopilot's clock and the times of all answers stay within these bounds. -/
theorem noOverflow_iff {log : List (Taken Timesync TimesyncCall TimesyncMessage)} {last : Timesync}
    (run : receiver.Run {} log last) : (∀ taken ∈ log, taken.before.Fits taken.action) ↔
      ∀ taken ∈ log, taken.before.WithinRange taken.action :=
  run.all_iff fits_iff_withinRange offsetInRange_of_fits ⟨by decide, by decide⟩

instance (timesync : Timesync) : (call : TimesyncCall) → Decidable (timesync.WithinRange call)
  | .enable | .doWork _ _ _ => .isTrue trivial
  | .processTimesync _ _ _ => inferInstanceAs (Decidable (_ ∧ _))

/-- An answer 2 ms after the request, by a clock that is 6 ms ahead, and a request. -/
def sampled : List TimesyncCall :=
  [.enable, .doWork 5000000000 1700000000000000000 true,
    .processTimesync ⟨1700000000007000000, 1700000000000000000⟩ 1700000000002000000
      1700000000002001000,
    .processTimesync ⟨0, -5⟩ 1700000000900000000 1700000000900000000]

theorem noOverflow_sampled :
    (receiver.log {} sampled).length = sampled.length ∧
      ∀ taken ∈ receiver.log {} sampled, taken.before.Fits taken.action := by
  obtain ⟨last, run⟩ := receiver.run_log {} sampled (by decide)
  exact ⟨by decide, (noOverflow_iff run).mpr (by decide)⟩

/-- Doubling the time overflows before anything is checked. -/
theorem large_answer_overflows :
    ¬∀ log last, receiver.Run {} log last → ∀ taken ∈ log, taken.before.Fits taken.action := by
  intro all
  let calls : List TimesyncCall :=
    [.enable, .processTimesync ⟨2 ^ 62, 0⟩ 1700000000000000000 1700000000000000000]
  obtain ⟨last, run⟩ := receiver.run_log {} calls (by decide)
  have fits : Timesync.NoOverflow 1700000000000000000 1700000000000000000 ⟨2 ^ 62, 0⟩ _ :=
    all _ _ run _ (List.mem_cons_of_mem _ List.mem_cons_self)
  exact absurd (fits.twice (by decide)) (by decide)

end Timesync
end PilotingMavsdk
