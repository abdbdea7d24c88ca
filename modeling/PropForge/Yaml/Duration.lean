import PropForge.Number.Digits

/-!
Spans of time as text: days, of which there may be fewer than none, and the seconds beyond them.
-/

namespace PropForge.Yaml

/-- A span of minutes. Parts that are zero are left out, but not both. -/
def durationShown (minutes : Int) : String :=
  let days := minutes.fdiv 1440
  let seconds := minutes.fmod 1440 * 60
  let number (n : Int) := String.ofList (Number.decimal n)
  let parts := (if days = 0 then [] else ["days=" ++ number days]) ++
    (if seconds = 0 then [] else ["seconds=" ++ number seconds])
  let inside := if parts.isEmpty then "0" else ", ".intercalate parts
  s!"datetime.timedelta({inside})"

end PropForge.Yaml
