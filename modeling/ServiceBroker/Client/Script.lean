import ServiceBroker.Client.Dialogue

/-!
# A broker that replies from a script

A script is a list of replies, given out one per request; when it has run out
every round trip fails. A reply may cancel the client's token just before it
is given. Time passes in an instant: a wait is over at once, with the token
as it is.
-/

namespace ServiceBroker

/-- **One entry of a script.** -/
structure Script.Entry where
  reply : Reply
  /-- Whether the token is cancelled when the request comes in. -/
  cancels : Bool := false

/-- **A script and the client's token.** -/
structure Script where
  /-- What is left of the script. -/
  entries : List Script.Entry
  /-- Whether the token is cancelled. -/
  cancelled : Bool := false

namespace Script

/-- The failure of every round trip after the end. -/
def exhausted : TransportFault := .other "script exhausted"

/-- **Giving out the next reply.** -/
def reply (script : Script) (_request : Http.Request) : Reply × Script :=
  match script.entries with
  | [] => (.error exhausted, script)
  | entry :: entries =>
    (entry.reply, { entries, cancelled := script.cancelled || entry.cancels })

/-- **The world of a script.** -/
def world : Dialogue.World Script where
  reply := reply
  cancelled := (·.cancelled)
  wait script _ := (script.cancelled, script)

end Script

end ServiceBroker
