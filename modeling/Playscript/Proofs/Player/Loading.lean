import Playscript.Player.Loading
import Playscript.Player.Session
import Playscript.Proofs.Playback.Run
import Playscript.Proofs.Table.Playable

/-!
What may keep a session from being opened. A file that is not there, is not text or does not hold
what it should is a fault of its own kind, and so is a script without a line to play; none of them
is about an address that a line leads to.
-/

namespace Playscript

namespace Disk

variable {disk : Disk} {path : String} {fault : Fault}

theorem resolveFile_fault (failed : disk.resolveFile path = .error fault) : fault.kind = .io := by
  simp only [resolveFile] at failed
  split at failed
  · obtain rfl := Except.error.inj failed
    rfl
  · obtain rfl := Except.error.inj failed
    rfl
  · cases failed

theorem resolveDirectory_fault (failed : disk.resolveDirectory path = .error fault) :
    fault.kind = .io := by
  simp only [resolveDirectory] at failed
  split at failed
  · obtain rfl := Except.error.inj failed
    rfl
  · cases failed
  · obtain rfl := Except.error.inj failed
    rfl

theorem readText_fault (failed : disk.readText path = .error fault) : fault.kind = .io := by
  simp only [readText] at failed
  split at failed
  · obtain rfl := Except.error.inj failed
    rfl
  · obtain rfl := Except.error.inj failed
    rfl
  · split at failed
    · obtain rfl := Except.error.inj failed
      rfl
    · cases failed

theorem loadCastDirectory_fault (failed : disk.loadCastDirectory path = .error fault) :
    fault.kind = .io := by
  simp only [loadCastDirectory] at failed
  split at failed
  · obtain rfl := Except.error.inj failed
    rfl
  · cases failed

end Disk

theorem Cast.ofText_fault {wording : Wording} {text : String} {fault : Fault}
    (failed : ofText wording text = .error fault) : fault.kind = .config := by
  simp only [ofText] at failed
  split at failed
  · obtain rfl := Except.error.inj failed
    rfl
  · split at failed
    · obtain rfl := Except.error.inj failed
      rfl
    · cases failed

namespace Disk

theorem loadCastFile_fault {disk : Disk} {path : String} {fault : Fault}
    (failed : disk.loadCastFile path = .error fault) : fault.kind = .io ∨ fault.kind = .config := by
  rcases (bind_eq_error_iff _ _ fault).mp failed with unreadable | ⟨_, _, malformed⟩
  · exact .inl (readText_fault unreadable)
  · exact .inr (Cast.ofText_fault malformed)

theorem loadCast_fault {disk : Disk} {directory file : Option String} {fault : Fault}
    (failed : disk.loadCast directory file = .error fault) :
    fault.kind = .io ∨ fault.kind = .config := by
  cases directory with
  | some path =>
      left
      rcases (bind_eq_error_iff _ _ fault).mp failed with unresolved | ⟨_, _, later⟩
      · exact resolveDirectory_fault unresolved
      · rcases (bind_eq_error_iff _ _ fault).mp later with unlisted | ⟨_, _, never⟩
        · exact loadCastDirectory_fault unlisted
        · cases never
  | none =>
      cases file with
      | none => cases failed
      | some path =>
          rcases (bind_eq_error_iff _ _ fault).mp failed with unresolved | ⟨_, _, later⟩
          · exact .inl (resolveFile_fault unresolved)
          · rcases (bind_eq_error_iff _ _ fault).mp later with unread | ⟨_, _, never⟩
            · exact loadCastFile_fault unread
            · cases never

theorem loadConfig_valid {disk : Disk} {path : Option String} {config : Config}
    (loaded : disk.loadConfig path = .ok config) : config.validate = .ok () := by
  cases path with
  | none =>
      obtain rfl := Except.ok.inj loaded
      rfl
  | some path =>
      simp only [loadConfig, bind_eq_ok_iff] at loaded
      obtain ⟨_, _, text, _, made⟩ := loaded
      simp only [Config.ofText] at made
      split at made
      · cases made
      · rename_i other _
        cases valid : other.validate with
        | error fault => simp [valid, Except.map] at made
        | ok _ =>
            obtain rfl : other = config := by simpa [valid, Except.map] using made
            exact valid

end Disk

theorem Table.load_fault {config : Config} {text : String} {fault : Fault}
    (valid : config.validate = .ok ()) (failed : load config text = .error fault) :
    fault.kind = .format := by
  rcases (bind_eq_error_iff _ _ fault).mp failed with invalid | ⟨_, _, refused⟩
  · simp [valid] at invalid
  · dsimp only at refused
    split at refused
    · obtain rfl := Except.error.inj refused
      rfl
    · split at refused
      · obtain rfl := Except.error.inj refused
        rfl
      · cases refused

/-- A fault of opening a session: a file, the script or the entry is not what it should be. -/
def Fault.OfOpening (fault : Fault) : Prop :=
  fault.kind = .io ∨ fault.kind = .config ∨ fault.kind = .format ∨
    ∃ address, fault = .entryMissing address

theorem Fault.OfOpening.ne_addressMissing {fault : Fault} (opening : fault.OfOpening)
    (address : Address) : fault ≠ .addressMissing address := by
  rintro rfl
  rcases opening with io | config | format | ⟨_, entry⟩
  · cases io
  · cases config
  · cases format
  · cases entry

theorem Production.prepare_fault {graph : Graph} {request : Request} {fault : Fault}
    (valid : request.config.validate = .ok ()) (failed : prepare graph request = .error fault) :
    fault.OfOpening := by
  rcases (bind_eq_error_iff _ _ fault).mp failed with invalid | ⟨_, _, refused⟩
  · simp [valid] at invalid
  · dsimp only at refused
    split at refused
    · obtain rfl := Except.error.inj refused
      exact .inr (.inr (.inl rfl))
    · split at refused
      · exact .inr (.inr (.inr ⟨_, (Except.error.inj refused).symm⟩))
      · cases refused

theorem Production.prepare_succeeds {graph : Graph} (request : Request) {first : Address}
    (valid : request.config.validate = .ok ()) (lowest : graph.first? = some first)
    (present : graph.contains (request.entry.getD first) = true) :
    ∃ production, prepare graph request = .ok production :=
  ⟨_, (prepare_eq_ok_iff graph request _).mpr ⟨valid, first, lowest, present, rfl⟩⟩

theorem Session.openSource_fault {mode : RevealMode} {source : Source} {fault : Fault}
    (valid : source.config.validate = .ok ()) (failed : openSource mode source = .error fault) :
    fault.OfOpening := by
  rcases (bind_eq_error_iff _ _ fault).mp failed with unmade | ⟨_, _, never⟩
  · rcases (bind_eq_error_iff _ _ fault).mp unmade with unloaded | ⟨_, _, unprepared⟩
    · exact .inr (.inr (.inl (Table.load_fault valid unloaded)))
    · exact Production.prepare_fault valid unprepared
  · cases never

end Playscript
