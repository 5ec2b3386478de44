namespace Overseer.Rehearsal

-- Scripts: what a rehearsed part of the world answers the first time, the
-- second time, and so on. The last answer is repeated, and an empty script
-- gives a fixed one.

def answer (script : List α) (fallback : α) (turn : Nat) : α :=
  match script[turn]? with
  | some value => value
  | none => script.getLast?.getD fallback

end Overseer.Rehearsal
