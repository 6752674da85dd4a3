import RawSeries.Directory.Basic
import RawSeries.Store.Table

/-!
Parts of a larger state. Work on a part is work on the whole that leaves the rest alone.
-/

namespace RawSeries

/-- A part `σ` of a state `τ`. -/
structure Part (σ τ : Type) where
  get : τ → σ
  put : σ → τ → τ

namespace Part

variable {σ τ γ α : Type}

def lift (p : Part σ τ) (work : StateM σ α) : StateM τ α := fun t =>
  let (a, s) := work.run (p.get t)
  (a, p.put s t)

def task (p : Part σ τ) (work : Task σ α) : Task τ α :=
  ExceptT.mk (p.lift work.run)

def table (p : Part σ τ) (t : Table σ γ) : Table τ γ where
  openScan q := p.task (t.openScan q)
  fetch c := p.lift (t.fetch c)
  release c := p.lift (t.release c)
  delete key := p.task (t.delete key)

/-- A directory in the part as a directory in the whole. -/
def directory (p : Part σ τ) (d : Directory (Task σ)) : Directory (Task τ) where
  name kind uid := p.task (d.name kind uid)
  id kind name := p.task (d.id kind name)
  suggest start limit := p.task (d.suggest start limit)

end Part

end RawSeries
