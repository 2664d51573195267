import Codeoff.Core.Identity

/-!
# 予定

`ScheduleSpec` の次回時刻と、期限を過ぎた発生時刻をまとめる `coalesce`。cron 式と時間帯の計算は外部の
ライブラリ（croner と jiff）であり、`CronLibrary` として受け取る。
-/

namespace Codeoff.State

open Codeoff.Core

def maxCronHorizonSeconds : Int := 366 * 24 * 60 * 60 * 10

def gregorianCycleStart : Int := 946684800

def gregorianCycleEnd : Int := 13569465600

structure CronLibrary where
  /-- `CronParser::parse` が式を受け付けるか。 -/
  parses : String → Bool
  /-- `BundledTimeZone::parse` が返す時間帯の正式な名。 -/
  timezone : String → Option String
  /-- `find_next_occurrence(reference, inclusive)`。 -/
  findNext : String → String → Int → Bool → Option Int
  /-- `find_previous_occurrence(reference, inclusive)`。 -/
  findPrevious : String → String → Int → Bool → Option Int
  /-- `transition_timestamps(start, end, limit)`。 -/
  transitions : String → Int → Int → Nat → Option (List Int)
  /-- `BundledTimeZone::supports_timestamp`。 -/
  supportsTimestamp : Int → Bool

inductive StateValueError where
  | empty (field : String)
  | tooLarge (field : String)
  | invalidJson (field : String)
  | nonCanonicalJson (field : String)
  | forbiddenDurableData (field : String)
  | invalidSha256 (field : String)
  | invalidValue (field : String)
  | invalidVersion
  | onceNotFuture
  | invalidInterval
  | cadenceTooShort
  | cadenceProofExhausted
  | cadenceProofUnavailable
  | invalidCronFieldCount
  | invalidCron
  | invalidTimezone
deriving DecidableEq, Repr

inductive OccurrenceError where
  | noFutureOccurrence
  | arithmeticOverflow
  | searchExhausted
deriving DecidableEq, Repr

structure OccurrenceWindow where
  scheduledFor : Int
  coalescedThrough : Int
  skippedCount : Nat
  skippedCountSaturated : Bool
  nextRunAt : Option Int
deriving DecidableEq, Repr

inductive ScheduleSpec where
  | once (at_ : Int)
  | fixedInterval (anchor everySeconds : Int)
  | cron (expression timezone : String)
deriving DecidableEq, Repr

/-- あふれた演算を `arithmeticOverflow` にする。 -/
def orOverflow (x : Option Int) : Except OccurrenceError Int :=
  match x with
  | some v => .ok v
  | none => .error .arithmeticOverflow

def nextFixedInterval (anchor everySeconds reference : Int) : Except OccurrenceError Int := do
  if reference < anchor then return anchor
  let elapsed ← orOverflow (checkedSub reference anchor)
  let steps ← orOverflow ((checkedDiv elapsed everySeconds).bind (checkedAdd · 1))
  let offset ← orOverflow (checkedMul steps everySeconds)
  orOverflow (checkedAdd anchor offset)

def nextCron (lib : CronLibrary) (expression timezone : String) (reference : Int) :
    Except OccurrenceError Int := do
  let horizonEnd ← orOverflow (checkedAdd reference maxCronHorizonSeconds)
  if !lib.supportsTimestamp reference || !lib.supportsTimestamp horizonEnd then
    throw .arithmeticOverflow
  if !lib.parses expression || (lib.timezone timezone).isNone then throw .noFutureOccurrence
  match lib.findNext expression timezone reference false with
  | none => throw .noFutureOccurrence
  | some timestamp =>
    if timestamp ≤ reference then throw .searchExhausted
    match checkedSub timestamp reference with
    | none => throw .searchExhausted
    | some distance =>
      if distance > maxCronHorizonSeconds then throw .searchExhausted
      return timestamp

namespace ScheduleSpec

def nextAfter (lib : CronLibrary) (spec : ScheduleSpec) (reference : Int) :
    Except OccurrenceError Int :=
  match spec with
  | .once at_ => if at_ > reference then .ok at_ else .error .noFutureOccurrence
  | .fixedInterval anchor everySeconds => nextFixedInterval anchor everySeconds reference
  | .cron expression timezone => nextCron lib expression timezone reference

def firstAfterCreate (lib : CronLibrary) (spec : ScheduleSpec) (now : Int) :
    Except OccurrenceError Int :=
  match spec with
  | .once at_ => .ok at_
  | .fixedInterval anchor _ => if anchor > now then .ok anchor else spec.nextAfter lib now
  | .cron _ _ => spec.nextAfter lib now

def validateForCreate (spec : ScheduleSpec) (now : Int) : Except StateValueError Unit :=
  match spec with
  | .once at_ => if at_ ≤ now then .error .onceNotFuture else .ok ()
  | _ => .ok ()

end ScheduleSpec

def coalesceFixedInterval (due now everySeconds : Int) : Except OccurrenceError OccurrenceWindow := do
  let elapsed ← orOverflow (checkedSub now due)
  let skipped ← orOverflow (checkedDiv elapsed everySeconds)
  let offset ← orOverflow (checkedMul skipped everySeconds)
  let coalescedThrough ← orOverflow (checkedAdd due offset)
  let nextRunAt ← orOverflow (checkedAdd coalescedThrough everySeconds)
  -- `u32::try_from` は負の値でも失敗し、`u32::MAX` になる。
  let skippedCount := if 0 ≤ skipped ∧ skipped ≤ u32Max then skipped.toNat else u32Max
  return { scheduledFor := due, coalescedThrough, skippedCount,
           skippedCountSaturated := skipped > u32Max, nextRunAt := some nextRunAt }

/-- 発生時刻を一つずつたどる。たどる歩数の上限 `steps` に達すれば `searchExhausted` になる。 -/
def coalesceSteps (next : Int → Except OccurrenceError Int) (due now : Int) :
    Nat → Int → Nat → Except OccurrenceError OccurrenceWindow
  | 0, _, _ => .error .searchExhausted
  | steps + 1, current, skippedCount =>
    match next current with
    | .error .noFutureOccurrence =>
      .ok { scheduledFor := due, coalescedThrough := current, skippedCount,
            skippedCountSaturated := false, nextRunAt := none }
    | .error e => .error e
    | .ok t =>
      if t > now then
        .ok { scheduledFor := due, coalescedThrough := current, skippedCount,
              skippedCountSaturated := false, nextRunAt := some t }
      else coalesceSteps next due now steps t (min (skippedCount + 1) u32Max)

namespace ScheduleSpec

def coalesce (lib : CronLibrary) (spec : ScheduleSpec) (due now : Int) (maxSteps : Nat) :
    Except OccurrenceError OccurrenceWindow :=
  if due > now then
    .ok { scheduledFor := due, coalescedThrough := due, skippedCount := 0,
          skippedCountSaturated := false, nextRunAt := some due }
  else
    match spec with
    | .once _ =>
      .ok { scheduledFor := due, coalescedThrough := due, skippedCount := 0,
            skippedCountSaturated := false, nextRunAt := none }
    | .fixedInterval _ everySeconds => coalesceFixedInterval due now everySeconds
    | .cron _ _ => coalesceSteps (spec.nextAfter lib) due now maxSteps due 0

/-! ## 最短の間隔 -/

def proveDaily (lib : CronLibrary) (expression timezone : String) (minimum : Int) (proofLimit : Nat) :
    Except StateValueError Bool := do
  if (lib.timezone timezone).isNone then throw .cadenceProofUnavailable
  let some transitions := lib.transitions timezone gregorianCycleStart gregorianCycleEnd proofLimit
    | throw .cadenceProofExhausted
  let rec gaps : List Int → Except StateValueError Bool
    | [] => .ok true
    | checkpoint :: rest =>
      match lib.findPrevious expression timezone checkpoint false,
          lib.findNext expression timezone checkpoint true with
      | some previous, some next =>
        match checkedSub next previous with
        | some gap => if gap < minimum then .ok false else gaps rest
        | none => .ok false
      | _, _ => .error .cadenceProofUnavailable
  if !(← gaps (gregorianCycleStart :: (transitions ++ [gregorianCycleEnd - 1]))) then return false
  let some first := lib.findNext expression timezone (gregorianCycleStart - 1) false
    | throw .cadenceProofUnavailable
  let some last := lib.findPrevious expression timezone gregorianCycleEnd false
    | throw .cadenceProofUnavailable
  return first + (gregorianCycleEnd - gregorianCycleStart) - last ≥ minimum

/-- 400 年の周期の発生時刻をすべてたどる。`proofLimit` を超えれば打ち切る。 -/
def proveCycle (next : Int → Option Int) (minimum : Int) :
    Nat → Int → Option Int → Option Int → Except StateValueError Bool
  | fuel, reference, first, previous =>
    match next reference with
    | none => .error .cadenceProofUnavailable
    | some occurrence =>
      if occurrence ≤ reference then .error .cadenceProofUnavailable
      else if occurrence ≥ gregorianCycleEnd then
        match first, previous with
        | some first, some last =>
          .ok (first + (gregorianCycleEnd - gregorianCycleStart) - last ≥ minimum)
        | _, _ => .error .cadenceProofUnavailable
      else
        match fuel with
        | 0 => .error .cadenceProofExhausted
        | fuel + 1 =>
          if (previous.map fun prior => decide (occurrence - prior < minimum)) = some true then
            .ok false
          else proveCycle next minimum fuel occurrence (some (first.getD occurrence)) (some occurrence)

/-- `parse::<u8>` に成功し `bound` より小さい十進の欄。先頭の `+` は許される。 -/
def fixedField (field : String) (bound : Nat) : Bool :=
  let digits := match field.toList with
    | '+' :: cs => cs
    | cs => cs
  !digits.isEmpty && digits.all Char.isDigit && Nat.ofDigitChars 10 digits 0 < bound

def proveCronMinimumCadence (lib : CronLibrary) (expression timezone : String) (minimum : Int)
    (proofLimit : Nat) : Except StateValueError Bool := do
  if minimum ≤ 60 then return true
  match splitWhitespace expression with
  | [minute, hour, day, month, weekday] =>
    let fixedMinute := fixedField minute 60
    let fixedHour := fixedField hour 24
    let everyDay := [day, month, weekday] == ["*", "*", "*"]
    if timezone == "UTC" && fixedMinute && hour == "*" && everyDay then return minimum ≤ 3600
    if timezone == "UTC" && fixedMinute && fixedHour && everyDay then return minimum ≤ 86400
    let fixedDaily := fixedMinute && fixedHour && everyDay
    if timezone != "UTC" && !fixedDaily then throw .cadenceProofUnavailable
    if !lib.parses expression then throw .invalidCron
    if fixedDaily then proveDaily lib expression timezone minimum proofLimit
    else
      if (lib.timezone timezone).isNone then throw .cadenceProofUnavailable
      proveCycle (lib.findNext expression timezone · false) minimum proofLimit
        (gregorianCycleStart - 1) none none
  | _ => throw .invalidCron

def validateMinimumCadence (lib : CronLibrary) (spec : ScheduleSpec) (now : Int)
    (minimumSeconds proofLimit : Nat) : Except StateValueError Unit := do
  let valid ← match spec with
    | .once at_ =>
      pure (match checkedSub at_ now with
        | some delay => decide (delay ≥ minimumSeconds)
        | none => false)
    | .fixedInterval _ everySeconds => pure (decide (everySeconds ≥ minimumSeconds))
    | .cron expression timezone =>
      proveCronMinimumCadence lib expression timezone minimumSeconds proofLimit
  if !valid then throw .cadenceTooShort

def ofCron (lib : CronLibrary) (expression timezone : String) : Except StateValueError ScheduleSpec := do
  let fields := splitWhitespace expression
  let canonical := " ".intercalate fields
  if fields.length ≠ 5 then throw .invalidCronFieldCount
  if !lib.parses canonical then throw .invalidCron
  match lib.timezone timezone with
  | none => throw .invalidTimezone
  | some name => return .cron canonical name

/-- `storage_parts` の列から予定を読み戻す。読めなければ `none` である。 -/
def fromStorage (lib : CronLibrary) (spec : ScheduleSpec) : Option ScheduleSpec :=
  match spec with
  | .once at_ => some (.once at_)
  | .fixedInterval anchor everySeconds =>
    if everySeconds ≤ 0 then none else some (.fixedInterval anchor everySeconds)
  | .cron expression timezone => (ofCron lib expression timezone).toOption

end ScheduleSpec

end Codeoff.State
