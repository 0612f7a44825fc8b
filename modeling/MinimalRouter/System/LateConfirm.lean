import MinimalRouter.System.Commit

namespace MinimalRouter.System

open Goish Config Apply Applyd Lib Lib.Prog

variable {F : Type} [DecidableEq F] {a : Appliance F} {p : Plane} {rules : Rules}

section Delivery

variable {req : ApplyRequest} {h h' : Helper F} {s s' : Backend F}

end Delivery

section Call

variable {st : EngineState} {s s' : Backend F} {c : Called} {txId : String}

end Call

section Run

variable {w w' : Site (Backend F)} {turn : Turn} {steps past rest : List (SystemStep F)}
  {e m : SystemStep F}

end Run

end MinimalRouter.System
