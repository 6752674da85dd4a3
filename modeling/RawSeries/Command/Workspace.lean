import RawSeries.FileTree
import RawSeries.Gateway.Session
import RawSeries.Store.Part

namespace RawSeries

structure Workspace where
  session : Gateway.Session
  tree : FileTree

namespace Workspace

def gateway : Part Gateway.Session Workspace where
  get := session
  put s w := { w with session := s }

def append (path : String) (more : Bytes) : Task Workspace Unit := do
  let w ← get
  match w.tree.append path more with
  | .ok tree => set { w with tree }
  | .error flaw => throw (.file flaw path)

def prepare (path : String) : Task Workspace Unit := do
  let w ← get
  let (tree, flaw) := w.tree.prepare path
  set { w with tree }
  match flaw with
  | none => return ()
  | some flaw => throw (.file flaw path)

end Workspace

end RawSeries
