import RawSeries.Proofs.GatewayAddresses
import RawSeries.Proofs.RemoteCells

/-!
Lookups in a table behind a gateway. Whatever was looked up before, and whether or not it was found,
a lookup comes to what stands in the table, and releases the scanners that it asks for.
-/

namespace RawSeries

open Gateway

namespace RemoteDirectory

open CellTable (upTo)

variable {s : Session} {d : RemoteDirectory} {t : CellTable} {tables : List (String × CellTable)}
  {segment : String} {last n : Nat} {kind : UidKind}

/-- A session is ready for lookups in a table, and what it has seen stands there. -/
structure Informed (t : CellTable) (tables : List (String × CellTable)) (table segment : String)
    (last n : Nat) (s : Session) : Prop where
  ready : s.Ready tables table segment last n
  names : ∀ entry ∈ s.names, t.directory.name entry.1.1 entry.1.2 = .ok entry.2
  ids : Stand t s.ids

theorem Informed.name_of_seen (h : Informed t tables d.table segment last n s) {kind : UidKind}
    {uid : Bytes} {name : String} (hseen : s.names.lookup (kind, uid) = some name) :
    t.directory.name kind uid = .ok name :=
  h.names _ (mem_of_lookup hseen)

theorem Informed.id_of_seen (h : Informed t tables d.table segment last n s) {kind : UidKind}
    {uid : Bytes} {name : String} (hseen : s.ids.lookup (kind, name) = some uid) :
    t.directory.id kind name = .ok uid :=
  h.ids _ (mem_of_lookup hseen)

theorem keyOf_of_some {name : String} {key : Bytes} (h : Bytes.ofLatin? name = some key)
    (s : Session) : (keyOf name).run.run s = (.ok key, s) := by
  rw [keyOf, h]
  rfl

theorem keyOf_of_none {name : String} (h : Bytes.ofLatin? name = none) (s : Session) :
    (keyOf name).run.run s = (.error (.unwritableName name), s) := by
  rw [keyOf, h]
  rfl

def noteName (kind : UidKind) (uid : Bytes) : Option Bytes → Task Session String
  | none => throw (.unknownUid kind uid)
  | some value => do
      let name := Bytes.toLatin value
      rememberName kind uid name
      rememberId kind name uid
      return name

def noteId (kind : UidKind) (name : String) : Option Bytes → Task Session Bytes
  | none => throw (.unknownName kind name)
  | some uid => do
      rememberId kind name uid
      rememberName kind uid name
      return uid

theorem name_of_seen {uid : Bytes} {name : String} (h : s.names.lookup (kind, uid) = some name) :
    (d.name kind uid).run.run s = (.ok name, s) := by
  rw [RemoteDirectory.name, Task.get_bind_run, h]
  rfl

theorem name_of_unseen {uid : Bytes} (h : s.names.lookup (kind, uid) = none) :
    (d.name kind uid).run.run s = (d.cell uid nameFamily kind >>= noteName kind uid).run.run s := by
  rw [RemoteDirectory.name, Task.get_bind_run, h]
  rfl

theorem id_of_seen {name : String} {uid : Bytes} (h : s.ids.lookup (kind, name) = some uid) :
    (d.id kind name).run.run s = (.ok uid, s) := by
  rw [RemoteDirectory.id, Task.get_bind_run, h]
  rfl

theorem id_of_unseen {name : String} (h : s.ids.lookup (kind, name) = none) :
    (d.id kind name).run.run s =
      (keyOf name >>= fun key => d.cell key idFamily kind >>= noteId kind name).run.run s := by
  rw [RemoteDirectory.id, Task.get_bind_run, h]
  rfl

section Lookups

variable (htable : tables.lookup (Service.nameOf segment) = some t) (hdistinct : t.Distinct)
  (hpaired : t.Paired)

include htable hdistinct

theorem suggest_noted (h : s.Ready tables d.table segment last n) (hn : n + 1 ≤ last)
    {start : String} {first : Bytes} (hfirst : Bytes.ofLatin? start = some first)
    (limit : Option Nat) :
    ∃ s', (d.suggest .metric start limit).run.run s =
        (.ok (upTo limit (t.namesOf .metric first)), s') ∧
      s'.Ready tables d.table segment last (n + 1) ∧ Session.Tends segment n 1 s s' ∧
      s'.names = s.names ∧ Notes t .metric (upTo limit (t.namesOf .metric first)) s.ids s'.ids := by
  let names := upTo limit (t.namesOf .metric first)
  let work (c : Cursor) : Task Session (List String) := do
    collect .metric limit (← enough c) c []
  obtain ⟨c, s₁, s', hopen, hrun, hready, htends, hnames, hids⟩ :=
    Session.scanner_run work (.ok names)
      (fun names' ids => names' = s.names ∧ Notes t .metric names s.ids ids) h htable hn
      ⟨(range first).1, (range first).2, d.batch, [column idFamily .metric]⟩ (fun _ => true)
      fun location s₁ hnames hids hlends => by
        obtain ⟨s₂, answers, hwork, hlends', hfetches, hnames', hnotes⟩ := names_run hdistinct hlends
        exact ⟨s₂, answers, hwork, hlends', hfetches, hnames'.trans hnames, hids ▸ hnotes⟩
  let report : Event := .report .debug ("Prefix " ++ Quoted.text start ++ " matched " ++
    Numeral.natural names.length ++ " " ++ UidKind.metric.word)
  have hreports : Session.Tends segment (n + 1) 0 s'
      { s' with events := s'.events ++ [report] } :=
    ⟨List.suffix_rfl, List.suffix_rfl, [report], rfl, rfl, rfl⟩
  refine ⟨{ s' with events := s'.events ++ [report] }, ?_,
    ⟨hready.goesOn, hready.serves, hready.service⟩, htends.trans hreports, hnames, hids⟩
  rw [suggest, Task.bind_of_ok (keyOf_of_some hfirst s)]
  exact (Task.bind_of_ok hopen _).trans (Task.bind_of_ok hrun _)

include hpaired

end Lookups

/-- A call for names or unique IDs. -/
inductive Inquiry where
  | metricName (uid : Bytes)
  | tagNames (tag : Bytes × Bytes)
  | id (kind : UidKind) (name : String)
  | suggest (start : String) (limit : Option Nat)

inductive Reply where
  | name (name : String)
  | tag (names : String × String)
  | uid (uid : Bytes)
  | names (names : List String)

namespace Inquiry

def make {m : Type → Type} [Monad m] (d : Directory m) : Inquiry → m Reply
  | .metricName uid => return .name (← d.name .metric uid)
  | .tagNames tag => return .tag (← d.tagNames tag)
  | .id kind name => return .uid (← d.id kind name)
  | .suggest start limit => return .names (← d.suggest start limit)

/-- The replies to some inquiries, one after the other; a failure does not end them. -/
def replies (d : RemoteDirectory) (qs : List Inquiry) : StateM Session (List (Except Fault Reply)) :=
  qs.mapM fun q => (q.make d.directory).run

def isLookup : Inquiry → Bool
  | .suggest _ _ => false
  | _ => true

theorem reply_run {α : Type} {work : Task Session α} {r : Except Fault α} {s' : Session}
    (h : work.run.run s = (r, s')) (reply : α → Reply) :
    (work >>= fun a => pure (reply a)).run.run s = (r >>= fun a => pure (reply a), s') := by
  cases r with
  | ok a => exact Task.bind_of_ok h _
  | error f => exact Task.bind_of_error h _

section

variable (htable : tables.lookup (Service.nameOf segment) = some t) (hdistinct : t.Distinct)
  (hpaired : t.Paired)

include htable hdistinct hpaired

end

end Inquiry

end RemoteDirectory

end RawSeries
