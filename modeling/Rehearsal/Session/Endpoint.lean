import Rehearsal.Play
import Rehearsal.Address
/-!
Waiting for a debugging endpoint. Its version is asked for again and again until it answers, at
least for one second; an endpoint that cannot be reached yet may do better the next time.
-/
namespace Rehearsal.Endpoint

variable {τ : Type} [Clock τ]

/-- The endpoint's next answer; the last one repeats. -/
def ask (url : String) : Play τ Answer := fun s =>
  let s := s.note (.httpGet url)
  match s.answers with
  | [] => (.done (.status 200), s)
  | [a] => (.done a, s)
  | a :: rest => (.done a, { s with answers := rest })

/-- Asks until the endpoint answers well or the deadline has passed. `turns` bounds the number of
requests. -/
def poll (url : String) (deadline interval : τ) : Nat → Play τ Bool
  | 0 => Play.endless
  | turns + 1 => do
    if !Clock.lt (← Play.look Stage.wall) deadline then return false
    match ← ask url with
    | .status 200 => return true
    | .unreadable => Play.fail (.badResponse "bad response")
    | _ =>
      Play.sleep interval
      poll url deadline interval turns

/-- Does the endpoint answer within the time? -/
def wait (endpoint : String) (timeout interval : τ) : Play τ Bool :=
  match Address.versionUrl endpoint with
  | .error f => Play.fail (.address f)
  | .ok url =>
    if url = "" then return false
    else do
      let deadline := Clock.add (← Play.look Stage.wall) (Clock.atLeastOne timeout)
      Play.change (·.note .httpClient)
      poll url deadline interval (← Play.look (·.patience))

end Rehearsal.Endpoint
