/-
Module: AttachService.Text.Duration
Purpose: The text of a span of whole milliseconds, in seconds or milliseconds.
Trusted boundary: none
Main exports: Duration.ofMillis
-/
import AttachService.Text.Numeral

namespace AttachService.Duration

/-- The three decimals of `millis < 1000`, without the zeros at the end. -/
def decimals (millis : Nat) : String :=
  let digits := [millis / 100, millis / 10 % 10, millis % 10]
  let kept := (digits.reverse.dropWhile (· == 0)).reverse
  String.join (kept.map Numeral.ofNat)

/-- A span is written in seconds with as many decimals as it needs from one second on, in
milliseconds below that, and as `0ns` when it is empty. -/
def ofMillis (millis : Nat) : String :=
  if millis = 0 then "0ns"
  else if millis < 1000 then Numeral.ofNat millis ++ "ms"
  else if millis % 1000 = 0 then Numeral.ofNat (millis / 1000) ++ "s"
  else Numeral.ofNat (millis / 1000) ++ "." ++ decimals (millis % 1000) ++ "s"

example : ofMillis 0 = "0ns" := by decide +kernel
example : ofMillis 999 = "999ms" := by decide +kernel
example : ofMillis 1500 = "1.5s" := by decide +kernel
example : ofMillis 1001 = "1.001s" := by decide +kernel

end AttachService.Duration
