import IndexGateway.Metrics.Basic
import IndexGateway.Text.Numeral

/-!
# Lines for a metrics agent

An agent receives one line per event: the name under a common prefix, a value, a
letter for the kind, and the tags. Nothing in a line is escaped.
-/

namespace IndexGateway.Metrics.Statsd

/-- What stands before every name: the configured prefix with a single dot at its end, or nothing
if none is configured. -/
def stem (configured : String) : String :=
  match configured.toList with
  | [] => ""
  | cs => String.ofList ((cs.reverse.dropWhile (· = '.')).reverse ++ ['.'])

/-- The tags at the end of a line, if there are any. -/
def tagSuffix : List Tag → String
  | [] => ""
  | tags => "|#" ++ ",".intercalate (tags.map Tag.text)

/-- The line for an event. -/
def line (configured : String) : Event → String
  | .increment name tags => stem configured ++ name ++ ":1|c" ++ tagSuffix tags
  | .timing name elapsed tags =>
    stem configured ++ name ++ ":" ++ String.ofList (Text.Numeral.ofNat (Duration.wholeMillis elapsed)) ++
      "|ms" ++ tagSuffix tags

end IndexGateway.Metrics.Statsd
