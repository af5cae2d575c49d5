import QueryBindings.Proofs.Log.Outcome
import QueryBindings.Storage.Transfer

/-!
# What transfers leave behind

Reading leaves files and standard output alone.  Writing leaves the response where it was
asked for, and everything else as it was.  A write that fails changes nothing either, unless
the system refuses it late; then a beginning of the response is what it leaves.
-/

namespace QueryBindings.Storage

open Text (Bytes)
open Log (Traced)

/-! ## Trees -/

namespace Tree

variable {tree : Tree} {place : Place} {entry : Entry}

theorem lookup_store_of_ne {other : Place} (hne : other ≠ place) (tree : Tree) :
    (tree.store place entry).lookup other = tree.lookup other := by
  induction tree with
  | nil => simp [store, hne]
  | cons stored rest ih =>
      obtain ⟨key, value⟩ := stored
      unfold store
      split
      case isTrue heq =>
        have hkey : key = place := heq
        have hother : (other == place) = false := by simpa using hne
        simp only [List.lookup_cons, hkey, hother]
      case isFalse => simp only [List.lookup_cons, ih]

theorem any_key_store (p : Place → Bool) (h : tree.any (fun stored => p stored.1) = true) :
    (tree.store place entry).any (fun stored => p stored.1) = true := by
  induction tree with
  | nil => contradiction
  | cons stored rest ih =>
      rw [List.any_cons, Bool.or_eq_true] at h
      unfold store
      split
      case isTrue heq =>
        rw [List.any_cons, Bool.or_eq_true]
        rcases h with hfirst | hrest
        · exact .inl (heq ▸ hfirst)
        · exact .inr hrest
      case isFalse =>
        rw [List.any_cons, Bool.or_eq_true]
        rcases h with hfirst | hrest
        · exact .inl hfirst
        · exact .inr (ih hrest)

theorem entry?_store_of_directory {other : Place} (hne : other ≠ place)
    (h : tree.entry? other = some .directory) :
    Tree.entry? (tree.store place entry) other = some .directory := by
  unfold entry? at h ⊢
  split at h
  case isTrue hnames => rw [if_pos hnames]
  case isFalse hnames =>
    rw [if_neg hnames, lookup_store_of_ne hne]
    cases hlookup : tree.lookup other with
    | some stored =>
        rw [hlookup] at h
        exact h
    | none =>
        rw [hlookup] at h
        dsimp only at h ⊢
        split at h
        case isTrue hinside => rw [if_pos (any_key_store (·.isInside other) hinside)]
        case isFalse => contradiction

/-- A path leads through directories, so storing a file does not bend it. -/
theorem follow_store (hplace : tree.entry? place ≠ some .directory) {names : List String}
    {start target : Place} (h : tree.follow start names = .ok target) :
    (tree.store place entry).follow start names = .ok target := by
  induction names generalizing start with
  | nil => exact h
  | cons name rest ih =>
      unfold follow at h ⊢
      cases hstart : tree.entry? start with
      | none =>
          rw [hstart] at h
          contradiction
      | some stored =>
          rw [hstart] at h
          cases stored with
          | file content => contradiction
          | directory =>
              have hne : start ≠ place := by
                rintro rfl
                exact hplace hstart
              rw [entry?_store_of_directory hne hstart]
              exact ih h

theorem write_eq_ok_iff {path : Path} {content : Bytes} {written : Tree} :
    tree.write path content = .ok written ↔
      ∃ place, tree.locate path = .ok place ∧ tree.entry? place ≠ some .directory ∧
        written = tree.store place (.file content) := by
  unfold write
  cases hlocate : tree.locate path with
  | error fault => simp
  | ok place =>
      cases hentry : tree.entry? place with
      | none => simp [hentry, eq_comm]
      | some stored => cases stored <;> simp [hentry, eq_comm]

theorem read_of_write {path : Path} {content : Bytes} {written : Tree}
    (h : tree.write path content = .ok written) : written.read path = .ok content := by
  obtain ⟨place, hlocate, hentry, rfl⟩ := write_eq_ok_iff.1 h
  have hnames : place.names ≠ [] := by
    intro hnames
    exact hentry (if_pos hnames)
  have hagain : (tree.store place (.file content)).locate path = .ok place :=
    follow_store hentry hlocate
  have hfile : Tree.entry? (tree.store place (.file content)) place = some (.file content) := by
    unfold entry?
    rw [if_neg hnames, lookup_store]
  unfold read find
  rw [hagain]
  dsimp only
  rw [hfile]

end Tree

/-! ## Hosts -/

namespace Host

theorem load_leaves (host : Host) (name : Option String) (stream : Stream) :
    ∃ input, (host.load name stream).1 = { host with input := input } := by
  unfold load
  split
  · exact ⟨host.input, rfl⟩
  · unfold loadStream
    cases host.contentOf stream with
    | error fault => exact ⟨host.input, rfl⟩
    | ok data =>
        cases stream with
        | standard => exact ⟨[], rfl⟩
        | own content => exact ⟨host.input, rfl⟩
        | failing reason => exact ⟨host.input, rfl⟩

theorem loadFile_eq_ok_iff {host : Host} {name : String} {data : Bytes} :
    (host.loadFile name).outcome = .ok data ↔ host.readFile (Path.ofString name) = .ok data := by
  unfold loadFile
  rw [Traced.bind_outcome, Traced.log_outcome]
  dsimp only [Except.bind]
  cases hfind : host.tree.find (Path.ofString name) with
  | error fault =>
      unfold readFile Tree.read
      simp [hfind, TransferFault.raise]
  | ok stored =>
      dsimp only
      cases host.readFile (Path.ofString name) with
      | error fault => simp [TransferFault.raise]
      | ok content => simp [Traced.bind_outcome, Except.bind]

/-- What there is to read, in the file of a name or else on standard input. -/
def Offers (host : Host) (name : Option String) (data : Bytes) : Prop :=
  match fileName? name with
  | some name => host.readFile (Path.ofString name) = .ok data
  | none => host.inputFault = none ∧ host.input = data

theorem requireContent_eq_ok_iff {loaded : Traced TransferFault Bytes} {data : Bytes} :
    (loaded >>= requireContent).outcome = .ok data ↔ loaded.outcome = .ok data ∧ data ≠ [] := by
  rw [Traced.bind_eq_ok_iff]
  constructor
  · rintro ⟨content, hcontent, hrequire⟩
    unfold requireContent at hrequire
    split at hrequire
    case isTrue => contradiction
    case isFalse hne =>
      cases hrequire
      exact ⟨hcontent, hne⟩
  · rintro ⟨hcontent, hne⟩
    exact ⟨data, hcontent, by rw [requireContent, if_neg hne]; rfl⟩

theorem load_eq_ok_iff {host : Host} {name : Option String} {data : Bytes} :
    (host.load name .standard).2.outcome = .ok data ↔ host.Offers name data ∧ data ≠ [] := by
  unfold load Offers
  cases hname : fileName? name with
  | some name =>
      dsimp only
      rw [requireContent_eq_ok_iff, loadFile_eq_ok_iff]
  | none =>
      dsimp only
      rw [requireContent_eq_ok_iff]
      refine and_congr_left fun _ => ?_
      unfold loadStream contentOf
      cases host.inputFault with
      | some reason => simp [TransferFault.raise]
      | none => simp [Traced.bind_outcome, Except.bind]

/-- The data is in the file of a name, or else at the end of standard output. -/
def Delivers (before after : Host) (data : Bytes) (name : Option String) : Prop :=
  match fileName? name with
  | some name =>
      after = { before with tree := after.tree } ∧
      after.tree.read (Path.ofString name) = .ok data ∧
      ∃ place, before.tree.locate (Path.ofString name) = .ok place ∧
        ∀ other, other ≠ place → after.tree.lookup other = before.tree.lookup other
  | none => after = { before with output := before.output ++ data }

/--
Nothing has changed, or the system has refused the data late and the beginning that it took is
delivered.
-/
def LeavesPart (before after : Host) (data : Bytes) (name : Option String) : Prop :=
  after = before ∨
    ∃ fault count, before.outputFault = some fault ∧ fault.written? = some count ∧
      before.Delivers after (data.take count) name

theorem LeavesPart.eq {before after : Host} {data : Bytes} {name : Option String}
    (h : before.LeavesPart after data name) (hfault : before.outputFault = none) :
    after = before := by
  rcases h with hsame | ⟨fault, _, hlate, _⟩
  · exact hsame
  · rw [hfault] at hlate
    contradiction

theorem delivers_of_tree_write {host : Host} {data : Bytes} {name? : Option String}
    {name : String} {tree : Tree} (hname : fileName? name? = some name)
    (h : host.tree.write (Path.ofString name) data = .ok tree) :
    host.Delivers { host with tree := tree } data name? := by
  obtain ⟨place, hlocate, _, htree⟩ := Tree.write_eq_ok_iff.1 h
  unfold Delivers
  rw [hname]
  refine ⟨rfl, Tree.read_of_write h, place, hlocate, ?_⟩
  intro other hne
  rw [htree]
  exact Tree.lookup_store_of_ne hne host.tree

theorem of_writeFile {host after : Host} {path : Path} {data : Bytes}
    (h : host.writeFile path data = (after, .ok ())) :
    ∃ tree, host.tree.write path data = .ok tree ∧ after = { host with tree := tree } := by
  unfold writeFile at h
  dsimp only at h
  split at h
  · simp at h
  next tree hwrite hfault =>
    rw [hfault] at hwrite
    exact ⟨tree, hwrite, (Prod.mk.inj h).1.symm⟩
  · simp at h

theorem of_writeFile_error {host after : Host} {path : Path} {data : Bytes} {fault : FileFault}
    (h : host.writeFile path data = (after, .error fault)) :
    after = host ∨ ∃ late count tree, host.outputFault = some late ∧ late.written? = some count ∧
      host.tree.write path (data.take count) = .ok tree ∧ after = { host with tree := tree } := by
  unfold writeFile at h
  dsimp only at h
  split at h
  · exact .inl (Prod.mk.inj h).1.symm
  · simp at h
  next tree late hwrite hlate =>
    have hafter := (Prod.mk.inj h).1
    cases hcount : late.written? with
    | none =>
        rw [hcount] at hafter
        exact .inl hafter.symm
    | some count =>
        rw [hlate, Option.elim_some, hcount] at hwrite
        rw [hcount] at hafter
        exact .inr ⟨late, count, tree, hlate, hcount, hwrite, hafter.symm⟩

theorem write_of_error {host : Host} {data : Bytes} {name? : Option String}
    {fault : TransferFault} (h : (host.write data name? .standard).2.outcome = .error fault) :
    host.LeavesPart (host.write data name? .standard).1 data name? := by
  unfold write at h ⊢
  cases hname : fileName? name? with
  | some name =>
      rw [hname] at h
      dsimp only at h ⊢
      rcases hwrite : host.writeFile (Path.ofString name) data with ⟨after, other | ⟨⟩⟩
      · rcases of_writeFile_error hwrite with
          hsame | ⟨late, count, tree, hlate, hcount, htree, rfl⟩
        · exact .inl hsame
        · exact .inr ⟨late, count, hlate, hcount, delivers_of_tree_write hname htree⟩
      · rw [hwrite] at h
        contradiction
  | none =>
      rw [hname] at h
      unfold writeOutput at h ⊢
      cases hlate : host.outputFault with
      | none => simp [hlate] at h
      | some late =>
          cases hcount : late.written? with
          | none =>
              refine .inl ?_
              simp only [hcount, Option.getD_none, List.take_zero, List.append_nil]
              rw [← hlate]
          | some count =>
              refine .inr ⟨late, count, hlate, hcount, ?_⟩
              unfold Delivers
              simp [hname, hlate, hcount]

theorem delivers_of_write {host : Host} {data rest : Bytes} {name? : Option String}
    (h : (host.write data name? .standard).2.outcome = .ok rest) :
    host.Delivers (host.write data name? .standard).1 data name? := by
  unfold write at h ⊢
  cases hname : fileName? name? with
  | some name =>
      rw [hname] at h
      dsimp only at h ⊢
      rcases hwrite : host.writeFile (Path.ofString name) data with ⟨after, other | ⟨⟩⟩
      · rw [hwrite] at h
        contradiction
      · obtain ⟨tree, htree, rfl⟩ := of_writeFile hwrite
        exact delivers_of_tree_write hname htree
  | none =>
      rw [hname] at h
      unfold writeOutput at h ⊢
      cases hlate : host.outputFault with
      | none => simp [Delivers, hname, hlate]
      | some late => simp [hlate, TransferFault.raise] at h

end Host

end QueryBindings.Storage
