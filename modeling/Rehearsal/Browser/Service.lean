import Rehearsal.Play
/-!
Calls that start and end a browser. Each may be made to fail by its name. The first page of a
context comes with all the pages that were prepared for it, before anybody listens.
-/
namespace Rehearsal.Browser

variable {τ : Type} [Clock τ]

/-- Puts a call down and fails if it is to fail. -/
def service (c : ServiceCall) : Play τ Unit := fun s =>
  let s := s.note (.service c)
  match s.faults.lookup c.name with
  | some message => (.failed (.driver { message }), s)
  | none => (.done (), s)

/-- The first page, of those that were prepared. -/
def newPage : Play τ Nat := do
  service .newPage
  Play.change fun s =>
    s.prepared.foldl (fun s p => s.openPage p.url p) s
  return 0

end Rehearsal.Browser
