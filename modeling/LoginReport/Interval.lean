import LoginReport.Number.Binary64

set_option autoImplicit false

/-!
# Intervals

An interval is shown in seven columns: seconds up to a minute, minutes up to an hour, hours up to
two days, and days from then on. The plain style marks seconds and hours and shows no interval
below a minute as blank; the old style marks minutes.
-/

namespace LoginReport.Interval

def minute : Int := 60

def hour : Int := 3600

def day : Int := 86400

/-- An interval below zero, and one that is not known. -/
def unknown : Text := "   ?   ".toList

/-- Two numbers with a colon between them, and a mark. -/
def clock (major minor : Int) (mark : Char) : Text :=
  ' ' :: Text.blankTwo major ++ ':' :: Text.zeroTwo minor ++ [mark]

def text (seconds centiseconds : Int) (oldStyle : Bool) : Text :=
  if seconds < 0 then unknown
  else if 2 * day ≤ seconds then ' ' :: Text.blankTwo (seconds / day) ++ "days".toList
  else if hour ≤ seconds then
    clock (seconds / hour) (seconds / minute % 60) (if oldStyle then ' ' else 'm')
  else if minute < seconds then
    clock (seconds / minute) (seconds % minute) (if oldStyle then 'm' else ' ')
  else if oldStyle then List.replicate 7 ' '
  else ' ' :: Text.blankTwo seconds ++ '.' :: Text.zeroTwo centiseconds ++ ['s']

/-- The hundredths of a second in the ticks that make up no whole second. -/
def centiseconds (ticks hertz : Int) : Except NumberFault Int := do
  let rate ← Binary64.ofInt? hertz
  let rest ← Binary64.ofInt? (ticks.fmod hertz)
  Binary64.trunc (rest.mul ((Binary64.ofInt 100).div rate))

/-- A number of clock ticks as an interval. -/
def ofTicks (ticks hertz : Int) (oldStyle : Bool) : Except NumberFault Text :=
  if hertz = 0 then .error .integerDivisionByZero
  else (centiseconds ticks hertz).map fun hundredths =>
    text (ticks.fdiv hertz) hundredths oldStyle

end LoginReport.Interval
