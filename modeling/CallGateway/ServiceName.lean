import CallGateway.Text.Alphanumeric
import CallGateway.Text.Lowercase

/-! Names of services and topics. Callers and workers derive them on their own, so every spelling of
a client type leads to one name: its alphanumeric segments in lower case, joined by `-`. -/

namespace CallGateway

/-- Cut at every character that is not alphanumeric; the pieces may be empty. -/
def cutSegments : List Char → List (List Char)
  | [] => [[]]
  | c :: cs =>
    if Text.isAlphanumeric c then
      match cutSegments cs with
      | [] => [[c]]
      | s :: ss => (c :: s) :: ss
    else [] :: cutSegments cs

/-- The maximal runs of alphanumeric characters. -/
def segments (cs : List Char) : List (List Char) :=
  (cutSegments cs).filter (!·.isEmpty)

/-- The name under which directories and topics know a client type. -/
def serviceName (clientType : String) : String :=
  String.ofList (['-'].intercalate ((segments clientType.toList).map Text.lowerCase))

/-- What a request topic has after the service name unless configured otherwise. -/
def defaultTopicSuffix : String := "-procedures"

def requestTopic (clientType suffix : String) : String := serviceName clientType ++ suffix

/-- The private topic on which a gateway instance receives replies. -/
def replyTopic (instanceId : String) : String := serviceName instanceId ++ "-replies"

end CallGateway
