import RawSeries.Gateway.Session
import RawSeries.Proofs.TaskRuns

namespace RawSeries

namespace Gateway

/-- What comes of one request: a scan is posted, and without one something is deleted. -/
def Service.give (path : String) (scan : Option ScanRequest) (service : Service) :
    Answer × Service :=
  match scan with
  | some scan => service.post path scan
  | none => service.delete path

/-- An event that is a request is one with this method for what an address writes. -/
def Event.Asks (base : Address) (method address : String) (scan : Option ScanRequest) :
    Event → Prop
  | .request own path sent =>
      own = method ∧ sent = scan ∧
        ∃ asked, base.resolve address = .ok asked ∧ path = String.ofList asked.target
  | _ => True

namespace Session

variable {s s' s'' : Session} {method address : String} {scan : Option ScanRequest}

/-- No requests were sent but ones with a method for an address. -/
structure Requests (method address : String) (scan : Option ScanRequest) (s s' : Session) :
    Prop where
  base : s'.base = s.base
  events : ∃ added, s'.events = s.events ++ added ∧ ∀ e ∈ added, e.Asks s.base method address scan

theorem Requests.refl (method address : String) (scan : Option ScanRequest) (s : Session) :
    s.Requests method address scan s :=
  ⟨rfl, [], (List.append_nil _).symm, nofun⟩

theorem Requests.trans (h : s.Requests method address scan s')
    (h' : s'.Requests method address scan s'') : s.Requests method address scan s'' := by
  obtain ⟨added, hadded, hrequests⟩ := h.events
  obtain ⟨more, hmore, hrequests'⟩ := h'.events
  refine ⟨h'.base.trans h.base, added ++ more, ?_, ?_⟩
  · rw [hmore, hadded, List.append_assoc]
  · intro e he
    rcases List.mem_append.mp he with he | he
    · exact hrequests e he
    · rw [← h.base]
      exact hrequests' e he

theorem locate_run {asked : Address} (h : s.base.resolve address = .ok asked) :
    (locate address).run.run s = (.ok asked, s) := by
  rw [locate, Task.get_bind_run, h]
  rfl

theorem checkOpen_run (h : s.ended = false) : checkOpen.run.run s = (.ok (), s) := by
  rw [checkOpen, Task.get_bind_run, h]
  rfl

theorem send_outcome {asked : Address} {answer : Answer} {service : Service} (method : String)
    (scan : Option ScanRequest) (hgoes : s.ended = false)
    (hasked : s.base.resolve address = .ok asked)
    (hanswer : s.service.give (String.ofList asked.target) scan = (answer, service)) :
    (send method address scan).run.run s = ((answer.check asked).map fun _ => answer, { s with
      service
      events := s.events ++ [.request method (String.ofList asked.target) scan] }) := by
  let noted : Session := { s with
    events := s.events ++ [Event.request method (String.ofList asked.target) scan] }
  have hnote : (note [.request method (String.ofList asked.target) scan]).run.run s =
      (.ok (), noted) := rfl
  have hgiven : noted.service.give (String.ofList asked.target) scan = (answer, service) := hanswer
  rw [send, Task.bind_of_ok (locate_run hasked), Task.bind_of_ok (checkOpen_run hgoes),
    Task.bind_of_ok hnote, Task.get_bind_run]
  cases scan with
  | none =>
      have hdelete : noted.service.delete (String.ofList asked.target) = (answer, service) := hgiven
      simp only [hdelete]
      cases answer.check asked <;> rfl
  | some scan =>
      have hpost : noted.service.post (String.ofList asked.target) scan = (answer, service) :=
        hgiven
      simp only [hpost]
      cases answer.check asked <;> rfl

theorem send_run {asked : Address} {answer : Answer} {service : Service} (method : String)
    (scan : Option ScanRequest) (hgoes : s.ended = false)
    (hasked : s.base.resolve address = .ok asked)
    (hanswer : s.service.give (String.ofList asked.target) scan = (answer, service))
    (hcheck : answer.check asked = .ok ()) :
    (send method address scan).run.run s = (.ok answer, { s with
      service
      events := s.events ++ [.request method (String.ofList asked.target) scan] }) := by
  rw [send_outcome method scan hgoes hasked hanswer, hcheck]
  rfl

theorem demand_run {answer : Answer} (h : (send method address scan).run.run s = (.ok answer, s'))
    (hthrottle : answer.isThrottle = false) (hsuccess : answer.isSuccess = true) :
    (demand method address scan).run.run s = (.ok answer, s') := by
  have hpatient : (sendPatiently method address scan attempts 0).run.run s = (.ok answer, s') := by
    rw [attempts, sendPatiently, Task.bind_of_ok h, hthrottle]
    rfl
  rw [demand, Task.bind_of_ok hpatient, hsuccess]
  rfl

/-- A session that goes on sends at least one request, for an address that can be written. -/
def Begins (method address : String) (scan : Option ScanRequest) (s s' : Session) : Prop :=
  s.ended = false → ∀ asked, s.base.resolve address = .ok asked →
    s.events ++ [.request method (String.ofList asked.target) scan] <+: s'.events

theorem Begins.trans (h : s.Begins method address scan s')
    (h' : s'.Requests method address scan s'') : s.Begins method address scan s'' := by
  intro hgoes asked hasked
  obtain ⟨more, hmore, -⟩ := h'.events
  rw [hmore]
  exact (h hgoes asked hasked).trans (List.prefix_append s'.events more)

theorem send_requests {r : Except Fault Answer}
    (h : (send method address scan).run.run s = (r, s')) :
    s.Requests method address scan s' ∧ s.Begins method address scan s' := by
  rcases hasked : s.base.resolve address with flaw | asked
  · have hlocate : (locate address).run.run s = (.error (.address flaw), s) := by
      rw [locate, Task.get_bind_run, hasked]
      rfl
    rw [send, Task.bind_of_error hlocate] at h
    cases h
    refine ⟨.refl method address scan s, ?_⟩
    intro _ asked hfound
    rw [hasked] at hfound
    cases hfound
  · rcases hended : s.ended with _ | _
    · rcases hanswer : s.service.give (String.ofList asked.target) scan with ⟨answer, service⟩
      rw [send_outcome method scan hended hasked hanswer] at h
      cases h
      refine ⟨⟨rfl, _, rfl, ?_⟩, ?_⟩
      · intro e he
        cases List.mem_singleton.mp he
        exact ⟨rfl, rfl, asked, hasked, rfl⟩
      · intro _ other hother
        rw [hasked] at hother
        cases hother
        exact List.prefix_rfl
    · have hopen : checkOpen.run.run s = (.error .disconnected, s) := by
        rw [checkOpen, Task.get_bind_run, hended]
        rfl
      rw [send, Task.bind_of_ok (locate_run hasked), Task.bind_of_error hopen] at h
      cases h
      refine ⟨.refl method address scan s, ?_⟩
      intro hgoes
      rw [hended] at hgoes
      cases hgoes

theorem throttled_requests (method address : String) (scan : Option ScanRequest) (status : Int)
    (delay : Decimal.Binary) (s : Session) :
    s.Requests method address scan
      { s with events := s.events ++ throttled method address status delay } := by
  refine ⟨rfl, _, rfl, fun e he => ?_⟩
  simp only [throttled, List.mem_cons, List.not_mem_nil, or_false] at he
  rcases he with rfl | rfl <;> trivial

/-- However often a request is tried, it is always the same one. -/
theorem sendPatiently_requests {left before : Nat} {r : Except Fault Answer}
    (h : (sendPatiently method address scan left before).run.run s = (r, s')) :
    s.Requests method address scan s' ∧ (0 < left → s.Begins method address scan s') := by
  induction left generalizing before s with
  | zero =>
      cases h
      exact ⟨.refl method address scan _, nofun⟩
  | succ left ih =>
      rcases hsend : (send method address scan).run.run s with ⟨f | answer, s₁⟩
      · rw [sendPatiently, Task.bind_of_error hsend] at h
        cases h
        exact ⟨(send_requests hsend).1, fun _ => (send_requests hsend).2⟩
      · obtain ⟨hrequests, hbegins⟩ := send_requests hsend
        rw [sendPatiently, Task.bind_of_ok hsend] at h
        by_cases hthrottle : answer.isThrottle = true
        · rw [if_pos hthrottle] at h
          rcases hdelay : answer.delay before with f | delay
          · rw [hdelay] at h
            cases h
            exact ⟨hrequests, fun _ => hbegins⟩
          · rw [hdelay] at h
            -- The report and the pause between two attempts are no requests.
            have hpause := throttled_requests method address scan answer.status delay s₁
            have hrest := hpause.trans (ih h).1
            exact ⟨hrequests.trans hrest, fun _ => hbegins.trans hrest⟩
        · rw [if_neg hthrottle] at h
          cases h
          exact ⟨hrequests, fun _ => hbegins⟩

theorem demand_requests {r : Except Fault Answer}
    (h : (demand method address scan).run.run s = (r, s')) :
    s.Requests method address scan s' ∧ s.Begins method address scan s' := by
  rcases hpatient : (sendPatiently method address scan attempts 0).run.run s with ⟨f | answer, s₁⟩
  · rw [demand, Task.bind_of_error hpatient] at h
    cases h
    exact ⟨(sendPatiently_requests hpatient).1, (sendPatiently_requests hpatient).2 (by decide)⟩
  · obtain ⟨hrequests, hbegins⟩ := sendPatiently_requests hpatient
    have hsame : s' = s₁ := by
      rw [demand, Task.bind_of_ok hpatient] at h
      by_cases hsuccess : answer.isSuccess = true
      · rw [if_pos hsuccess] at h
        cases h
        rfl
      · rw [if_neg hsuccess, locate, bind_assoc, Task.get_bind_run] at h
        cases hasked : s₁.base.resolve address <;> rw [hasked] at h <;> cases h <;> rfl
    rw [hsame]
    exact ⟨hrequests, hbegins (by decide)⟩

end Session

end Gateway

end RawSeries
