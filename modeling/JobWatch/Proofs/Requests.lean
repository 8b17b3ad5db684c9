import JobWatch.Http.Router
import JobWatch.Proofs.BlankText
import JobWatch.Proofs.Guards

/-!
# What requests ask for

A request that is served becomes an action, and the checks made on the way are facts about the
action. A job that a client asks to be tracked has a name that is not blank.
-/

set_option autoImplicit false

namespace JobWatch

namespace Http

/-- The job that is to be tracked on demand of a request. -/
def Service.tracked? : Service → Option (Kind × JobId)
  | .perform (.track kind id) => some (kind, id)
  | _ => none

theorem Service.eq_of_tracked? {service : Service} {kind : Kind} {id : JobId}
    (tracked : service.tracked? = some (kind, id)) : service = .perform (.track kind id) := by
  unfold Service.tracked? at tracked
  split at tracked
  · cases tracked
    rfl
  · cases tracked

theorem isBlankText_of_trackAction {segment : String} {request : Request} {kind : Kind}
    {id : JobId} (accepted : trackAction segment request = .ok (.track kind id)) :
    Text.isBlankText id.text = false := by
  unfold trackAction at accepted
  obtain ⟨raw, _, accepted⟩ := Guards.bind_eq_ok.mp accepted
  obtain ⟨body, _, accepted⟩ := Guards.bind_eq_ok.mp accepted
  obtain ⟨named, _, accepted⟩ := Guards.bind_eq_ok.mp accepted
  split at accepted
  · cases accepted
  · next unblank =>
      cases accepted
      simpa using unblank

theorem jobAction_ne_track (segment : String) (request : Request) (kind : Kind) (id : JobId) :
    jobAction segment request ≠ .ok (.track kind id) := by
  intro accepted
  unfold jobAction at accepted
  split at accepted
  · obtain ⟨raw, _, accepted⟩ := Guards.bind_eq_ok.mp accepted
    obtain ⟨body, _, accepted⟩ := Guards.bind_eq_ok.mp accepted
    obtain ⟨named, _, accepted⟩ := Guards.bind_eq_ok.mp accepted
    cases accepted
  · split at accepted
    · obtain ⟨named, _, accepted⟩ := Guards.bind_eq_ok.mp accepted
      cases accepted
    · obtain ⟨named, _, accepted⟩ := Guards.bind_eq_ok.mp accepted
      cases accepted

/-- No request gets a job without a name tracked. -/
theorem Request.isBlankText_of_service {request : Request} {kind : Kind} {id : JobId}
    (served : request.service = .ok (.perform (.track kind id))) :
    Text.isBlankText id.text = false := by
  unfold Request.service at served
  split at served
  · cases served
  · next route _ =>
      split at served
      · cases route with
        | health => cases served
        | events => cases served
        | job segment =>
            obtain ⟨action, taken, same⟩ := Guards.map_eq_ok.mp served
            cases same
            exact (jobAction_ne_track segment request kind id taken).elim
        | track segment =>
            obtain ⟨action, taken, same⟩ := Guards.map_eq_ok.mp served
            cases same
            exact isBlankText_of_trackAction taken
        | reset segment =>
            obtain ⟨named, _, same⟩ := Guards.map_eq_ok.mp served
            cases same
      · cases served

end Http

end JobWatch
