import CallGateway.LogFilter.Directive

/-! Filters of log lines, such as `info` or `warn,relay_gateway=debug`: which of the lines that a
part of the program writes are shown. -/

namespace CallGateway

abbrev LogFilter := List LogDirective

namespace LogFilter

/-- The directives of a filter, which commas separate. -/
def pieces (s : String) : List String :=
  ((Text.split ',' s.toList).filter (!·.isEmpty)).map String.ofList

/-- A filter that shows errors where nothing else is said. -/
def orErrors (f : LogFilter) : LogFilter := if f.isEmpty then [{ level := .error }] else f

/-- A filter all of whose directives are well-formed. -/
def parse (s : String) : LogDirective.Reading LogFilter :=
  ((pieces s).mapM LogDirective.read).map orErrors

/-- The well-formed directives of a filter, unless reading one of them breaks down. -/
def lenient (s : String) : Option LogFilter :=
  (go (pieces s)).map orErrors
where
  go : List String → Option (List LogDirective)
    | [] => some []
    | piece :: rest =>
      match LogDirective.read piece with
      | .ok d => (go rest).map (d :: ·)
      | .error (.error _) => go rest
      | .error .breakdown => none

/-- The directive that counts for a line with these fields from that part. -/
def directiveFor? (f : LogFilter) (part : String) (fields : List String) : Option LogDirective :=
  (f.filter (·.covers part fields)).foldl
    (fun best d => some ((best.map (·.decisive d)).getD d)) none

/-- A line of this level, with these fields, from this part is shown. -/
def shows (f : LogFilter) (part : String) (fields : List String) (level : LogLevel) : Bool :=
  match f.directiveFor? part fields with
  | some d => level.rank ≤ d.level.rank
  | none => false

end LogFilter

end CallGateway
