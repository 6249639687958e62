import Mathlib
import Schemata.Command.Run
import Schemata.Proofs.Example.Overflow
import Schemata.Proofs.Json.Names

/-!
# A run answers or gives up

* `FileAccess.Lawful` : reading changes nothing, nor does a write that fails; a directory is such an access, and a write
  changes one of its files (`Directory.exists_lookup_of_write`);
* `Answer`, `Job.Answers` : what a job answers, told by what the files hold;
* `Job.Overflows` : the answer would be an example that gets too long;
* `Finds` : a step that finds whatever there is to find and changes nothing;
* `perform_eq` : a job finds its answer first and puts it somewhere afterwards;
* `run_delivers_xor_givesUp` : so a run puts the whole answer in one place, or reports a failure and changes nothing;
  unless it breaks off for an example that gets too long (`not_delivers_or_givesUp_of_huge`).
-/

namespace Schemata

/-! ## Objects as documents -/

theorem Json.parse_of_value {text : String} {value : Json} {rest : Json.Reader.Rest text.toList}
    (h : Json.Reader.value 127 text.toList = .ok (value, rest)) (hrest : Json.Reader.skipBlanks rest.1 = []) :
    Json.parse text = .ok value := by
  unfold Json.parse
  rw [h]
  dsimp only [bind, Except.bind]
  rw [hrest]

theorem Json.Reader.value_of_members {room : Nat} {chars : List Char} {value : Json}
    {rest : { r : List Char // r.length < chars.length }}
    (h : members room chars.length chars (Nat.le_refl _) [] = .ok (value, rest)) :
    Json.Reader.value (room + 1) ('\x7b' :: chars) = .ok (value, ⟨rest.1, Nat.lt_succ_of_lt rest.2⟩) := by
  rw [Json.Reader.value]
  split
  next hblank => cases hblank
  next hblank =>
    cases hblank
    simp +decide [h]
    rfl

namespace Command

theorem parseDocument_of_parse {name content : String} {value : Json} (hname : isYaml name = false)
    (h : Json.parse content = .ok value) : parseDocument name content = .ok value := by
  rw [parseDocument, hname, h]
  rfl

/-! ## Access to files -/

/-- Reading changes nothing, nor does a write that fails. -/
structure FileAccess.Lawful {σ : Type} (files : FileAccess (StateM σ)) : Prop where
  read_keeps (name : String) (s : σ) : ((files.read name).run s).2 = s
  write_keeps (name content : String) (s : σ) (fault : FileFault) :
    ((files.write name content).run s).1 = .error fault → ((files.write name content).run s).2 = s

namespace Directory

theorem run_access_write (d : Directory) (name content : String) :
    (access.write name content).run d =
      match d.write name content with
      | .ok d' => (.ok (), d')
      | .error fault => (.error fault, d) := by
  unfold access
  simp only [StateT.run_bind, StateT.run_get, pure_bind]
  cases d.write name content with
  | ok d' => rfl
  | error fault => rfl

theorem write_of_access {d d' : Directory} {name content : String}
    (h : (access.write name content).run d = (.ok (), d')) : d.write name content = .ok d' := by
  rw [run_access_write] at h
  cases hwrite : d.write name content with
  | ok written =>
    rw [hwrite] at h
    rw [(Prod.mk.inj h).2]
  | error fault =>
    rw [hwrite] at h
    cases h

theorem lawful_access : access.Lawful where
  read_keeps _ _ := rfl
  write_keeps name content d fault hfault := by
    rw [run_access_write] at hfault ⊢
    cases hwrite : d.write name content with
    | ok d' =>
      rw [hwrite] at hfault
      cases hfault
    | error _ => rfl

/-- A file that is written has the content, and all others are as they were. -/
theorem exists_lookup_of_write {d d' : Directory} {name content : String} (h : d.write name content = .ok d') :
    ∃ file, d.locate name = .ok file ∧ d'.files.lookup file = some content ∧
      ∀ other, other ≠ file → d'.files.lookup other = d.files.lookup other := by
  unfold write at h
  cases hlocate : d.locate name with
  | error fault =>
    rw [hlocate] at h
    cases h
  | ok file =>
    rw [hlocate] at h
    obtain rfl := Except.ok.inj h
    have hfilter : d.files.filter (fun entry => entry.1 != file) = d.files.filter fun entry => entry.1 ≠ file :=
      List.filter_congr fun entry _ => by simp [bne, beq_eq_decide]
    refine ⟨file, rfl, ?_, ?_⟩
    · have habsent : (d.files.filter fun entry => entry.1 != file).lookup file = none := by
        refine List.lookup_eq_none_iff.2 fun entry hentry => ?_
        have hne : entry.1 ≠ file := by simpa using (List.mem_filter.1 hentry).2
        exact bne_iff_ne.2 hne.symm
      show ((d.files.filter fun entry => entry.1 != file) ++ [(file, content)]).lookup file = some content
      rw [List.lookup_append, habsent, Option.none_or, Names.lookup_cons, if_pos rfl]
    · intro other hother
      show ((d.files.filter fun entry => entry.1 != file) ++ [(file, content)]).lookup other = d.files.lookup other
      rw [List.lookup_append, hfilter, Names.lookup_filter_ne hother, Names.lookup_cons, if_neg hother]
      exact Option.or_none

end Directory

/-! ## Answers -/

inductive Answer where
  | report (found : Report)
  | value (shown : Json)
  | noRules

namespace Answer

/-- The rules of a field, if the schema reaches it. -/
def ofLookup : Lookup → Answer
  | .resolved found => .value found.toJson
  | .unresolved _ _ => .noRules

/-- The document that is written. -/
def text (layout : Layout) : Answer → String
  | .report found => layout.write found.toJson
  | .value shown => layout.write shown
  | .noRules => Command.noRules

def isSuccess : Answer → Bool
  | .report found => found.valid
  | _ => true

end Answer

section
variable {σ : Type} (files : FileAccess (StateM σ)) (s : σ)

/-- The file of a name holds a document. -/
def HoldsDocument (name : String) (value : Json) : Prop :=
  ∃ content, ((files.read name).run s).1 = .ok content ∧ files.parse name content = .ok value

inductive SchemaSource.Means : SchemaSource → Json → Prop
  | file {name : String} {schema : Json} : HoldsDocument files s name schema → Means (.file name) schema
  | description {name : String} {endpoint : Endpoint} {document schema : Json} :
      HoldsDocument files s name document → endpoint.lookup document = .found schema →
      Means (.description name endpoint) schema

inductive Task.Answers (schema : Json) : Task → Answer → Prop
  | report {payload : String} {options : ValidateOptions} {value : Json} :
      HoldsDocument files s payload value →
      Answers schema (.validate payload options) (.report (Schemata.validate options value schema))
  | value {options : ExampleOptions} {node : Node} :
      Node.compile schema = .ok node → ¬ node.Overflows options 0 →
      Answers schema (.example options) (.value (node.toExample options))
  | rules {path : String} {node : Node} :
      Node.compile schema = .ok node → Answers schema (.field path) (.ofLookup (node.field path))

def Job.Answers (job : Job) (answer : Answer) : Prop :=
  ∃ schema, job.source.Means files s schema ∧ job.task.Answers files s schema answer

/-- The task is to make an example of a schema, and a text that it calls for gets too long. -/
inductive Task.Overflows (schema : Json) : Task → Prop
  | intro {options : ExampleOptions} {node : Node} :
      Node.compile schema = .ok node → node.Overflows options 0 → Overflows schema (.example options)

/-- The job is to make an example that gets too long. -/
def Job.Overflows (job : Job) : Prop :=
  ∃ schema, job.source.Means files s schema ∧ job.task.Overflows schema

end

/-! ## Steps that only find something -/

section
variable {σ α β : Type} {files : FileAccess (StateM σ)} {s : σ}

/-- The step finds what `P` says, if there is such a thing, and leaves all files as they are. -/
structure Finds (step : ExceptT Failure (StateM σ) α) (s : σ) (P : α → Prop) : Prop where
  keeps : (step.run.run s).2 = s
  finds (a : α) : (step.run.run s).1 = .ok a ↔ P a

theorem Finds.run_eq_or {step : ExceptT Failure (StateM σ) α} {P : α → Prop} (h : Finds step s P) :
    (∃ a, P a ∧ step.run.run s = (.ok a, s)) ∨ ∃ failure, (∀ a, ¬ P a) ∧ step.run.run s = (.error failure, s) := by
  rcases hrun : step.run.run s with ⟨result, s'⟩
  obtain rfl : s' = s := by rw [← h.keeps, hrun]
  cases result with
  | ok a =>
    have ha : P a := (h.finds a).1 (by rw [hrun])
    exact .inl ⟨a, ha, rfl⟩
  | error failure =>
    refine .inr ⟨failure, ?_, rfl⟩
    intro a ha
    have hok := (h.finds a).2 ha
    rw [hrun] at hok
    cases hok

theorem Finds.unique {step : ExceptT Failure (StateM σ) α} {P : α → Prop} (h : Finds step s P) {a a' : α} (ha : P a)
    (ha' : P a') : a' = a :=
  Except.ok.inj (((h.finds a').2 ha').symm.trans ((h.finds a).2 ha))

theorem run_bind_ok {first : ExceptT Failure (StateM σ) α} {a : α} {s' : σ} (h : first.run.run s = (.ok a, s'))
    (next : α → ExceptT Failure (StateM σ) β) : (first >>= next).run.run s = (next a).run.run s' := by
  rw [ExceptT.run_bind, StateT.run_bind, h]
  rfl

theorem run_bind_error {first : ExceptT Failure (StateM σ) α} {failure : Failure} {s' : σ}
    (h : first.run.run s = (.error failure, s')) (next : α → ExceptT Failure (StateM σ) β) :
    (first >>= next).run.run s = (.error failure, s') := by
  rw [ExceptT.run_bind, StateT.run_bind, h]
  rfl

theorem Finds.pure (a : α) : Finds (Pure.pure a) s (a = ·) where
  keeps := rfl
  finds b := by
    show Except.ok a = .ok b ↔ a = b
    exact Except.ok.injEq a b ▸ Iff.rfl

theorem Finds.throw (failure : Failure) {P : α → Prop} (h : ∀ a, ¬ P a) :
    Finds (MonadExcept.throw failure) s P where
  keeps := rfl
  finds a := by
    constructor
    · intro hok
      cases hok
    · intro ha
      exact absurd ha (h a)

/-- What the second step finds depends on what the first one found. -/
theorem Finds.bind {first : ExceptT Failure (StateM σ) α} {next : α → ExceptT Failure (StateM σ) β} {P : α → Prop}
    {Q : α → β → Prop} (hfirst : Finds first s P) (hnext : ∀ a, P a → Finds (next a) s (Q a)) :
    Finds (first >>= next) s (fun b => ∃ a, P a ∧ Q a b) := by
  obtain ⟨a, ha, hrun⟩ | ⟨failure, hnone, hrun⟩ := hfirst.run_eq_or
  · have hbind := run_bind_ok hrun next
    refine ⟨?_, ?_⟩
    · rw [hbind]
      exact (hnext a ha).keeps
    · intro b
      rw [hbind, (hnext a ha).finds b]
      constructor
      · intro hb
        exact ⟨a, ha, hb⟩
      · rintro ⟨a', ha', hb⟩
        obtain rfl := hfirst.unique ha ha'
        exact hb
  · have hbind := run_bind_error hrun next
    refine ⟨?_, ?_⟩
    · rw [hbind]
    · intro b
      rw [hbind]
      constructor
      · intro hok
        cases hok
      · rintro ⟨a, ha, -⟩
        exact absurd ha (hnone a)

theorem Finds.congr {step : ExceptT Failure (StateM σ) α} {P Q : α → Prop} (h : Finds step s P)
    (hiff : ∀ a, P a ↔ Q a) : Finds step s Q where
  keeps := h.keeps
  finds a := (h.finds a).trans (hiff a)

theorem run_lift (action : StateM σ α) :
    (liftM action : ExceptT Failure (StateM σ) α).run.run s = (.ok (action.run s).1, (action.run s).2) := rfl

theorem Finds.lift {action : StateM σ α} (hkeeps : (action.run s).2 = s) :
    Finds (liftM action) s ((action.run s).1 = ·) := by
  refine ⟨?_, ?_⟩
  · rw [run_lift]
    exact hkeeps
  · intro a
    rw [run_lift]
    exact Except.ok.injEq _ a ▸ Iff.rfl

theorem finds_readDocument (lawful : files.Lawful) (role : DocumentRole) (name : String) :
    Finds (readDocument files role name) s (HoldsDocument files s name) := by
  refine Finds.bind (Q := fun result value => ∃ content, result = .ok content ∧ files.parse name content = .ok value)
    (Finds.lift (lawful.read_keeps name s)) ?_ |>.congr ?_
  · intro result _
    cases result with
    | error fault =>
      refine .throw _ ?_
      rintro value ⟨content, hcontent, -⟩
      cases hcontent
    | ok content =>
      dsimp only
      cases hparse : files.parse name content with
      | error e =>
        refine .throw _ ?_
        rintro value ⟨content', hcontent, hvalue⟩
        cases hcontent
        rw [hparse] at hvalue
        cases hvalue
      | ok value =>
        refine (Finds.pure value).congr ?_
        intro value'
        simp [hparse]
  · intro value
    simp [HoldsDocument]

theorem finds_readSchema (lawful : files.Lawful) (source : SchemaSource) :
    Finds (readSchema files source) s (source.Means files s) := by
  cases source with
  | file name =>
    refine (finds_readDocument lawful .schema name).congr ?_
    intro schema
    constructor
    · exact .file
    · rintro (h | _)
      exact h
  | description name endpoint =>
    refine Finds.bind (Q := fun document schema => endpoint.lookup document = .found schema)
      (finds_readDocument lawful .description name) ?_ |>.congr ?_
    · intro document _
      cases hlookup : endpoint.lookup document with
      | found schema =>
        refine (Finds.pure schema).congr ?_
        intro schema'
        simp
      | _ =>
        refine .throw _ ?_
        intro schema
        simp
    · intro schema
      constructor
      · rintro ⟨document, hdocument, hlookup⟩
        exact .description hdocument hlookup
      · rintro (_ | ⟨hdocument, hlookup⟩)
        exact ⟨_, hdocument, hlookup⟩

theorem finds_compiled (schema : Json) :
    Finds (compiled schema) s (fun node => Node.compile schema = .ok node) := by
  unfold compiled
  cases hcompile : Node.compile schema with
  | ok node =>
    refine (Finds.pure node).congr ?_
    intro node'
    simp
  | error e =>
    refine .throw _ ?_
    intro node
    simp

end

/-! ## Jobs -/

section
variable {m : Type → Type} [Monad m] (files : FileAccess m)

/-- Find the answer of a task; there is none if an example gets too long. -/
def Task.answer? (schema : Json) : Task → ExceptT Failure m (Option Answer)
  | .validate payload options => do
    return some (.report (Schemata.validate options (← readDocument files .payload payload) schema))
  | .example options => do return ((← compiled schema).example? options).map .value
  | .field path => do return some (.ofLookup ((← compiled schema).field path))

def Job.answer? (job : Job) : ExceptT Failure m (Option Answer) := do
  job.task.answer? files (← readSchema files job.source)

/-- What a job does once its answer is found. -/
def Job.deliver (job : Job) : Option Answer → ExceptT Failure m Outcome
  | some answer => put files job.output answer.isSuccess (answer.text job.layout)
  | none => return .overflowed

/-- A job finds its answer first. -/
theorem perform_eq [LawfulMonad m] (job : Job) : job.perform files = job.answer? files >>= job.deliver files := by
  unfold Job.perform Job.answer?
  rw [bind_assoc]
  congr 1
  funext schema
  match job.task with
  | .validate payload options => simp [Task.answer?, Job.deliver, Answer.isSuccess, Answer.text]
  | .example options =>
    simp only [Task.answer?, bind_assoc]
    congr 1
    funext node
    cases node.example? options with
    | some value => simp [Job.deliver, Answer.isSuccess, Answer.text]
    | none => simp [Job.deliver]
  | .field path =>
    simp only [Task.answer?, bind_assoc]
    congr 1
    funext node
    cases node.field path with
    | resolved found => simp [Job.deliver, Answer.ofLookup, Answer.isSuccess, Answer.text]
    | unresolved place reason => simp [Job.deliver, Answer.ofLookup, Answer.isSuccess, Answer.text]

end

section
variable {σ : Type} {files : FileAccess (StateM σ)} {s : σ}

/-- What there is to find for a task: an answer, or that there is none. -/
def Task.EndsIn (files : FileAccess (StateM σ)) (s : σ) (schema : Json) (task : Task) : Option Answer → Prop
  | some answer => task.Answers files s schema answer
  | none => task.Overflows schema

def Job.EndsIn (files : FileAccess (StateM σ)) (s : σ) (job : Job) (found : Option Answer) : Prop :=
  ∃ schema, job.source.Means files s schema ∧ job.task.EndsIn files s schema found

theorem finds_taskAnswer (lawful : files.Lawful) (schema : Json) (task : Task) :
    Finds (task.answer? files schema) s (task.EndsIn files s schema) := by
  match task with
  | .validate payload options =>
    refine Finds.bind (Q := fun value found => some (.report (Schemata.validate options value schema)) = found)
      (finds_readDocument lawful .payload payload) (fun value _ => .pure _) |>.congr ?_
    intro found
    constructor
    · rintro ⟨value, hvalue, rfl⟩
      exact Task.Answers.report hvalue
    · intro h
      cases found with
      | some answer =>
        obtain hvalue | _ := h
        exact ⟨_, hvalue, rfl⟩
      | none => cases h
  | .example options =>
    refine Finds.bind (Q := fun node found => (node.example? options).map .value = found)
      (finds_compiled schema) (fun node _ => .pure _) |>.congr ?_
    intro found
    constructor
    · rintro ⟨node, hnode, rfl⟩
      cases hexample : node.example? options with
      | some value =>
        obtain ⟨hfits, rfl⟩ := Node.example?_eq_some_iff.1 hexample
        exact Task.Answers.value hnode hfits
      | none => exact Task.Overflows.intro hnode (Node.example?_eq_none_iff.1 hexample)
    · intro h
      cases found with
      | some answer =>
        obtain _ | ⟨hnode, hfits⟩ := h
        exact ⟨_, hnode, by rw [Node.example?_eq_some_iff.2 ⟨hfits, rfl⟩]; rfl⟩
      | none =>
        obtain ⟨hnode, hoverflows⟩ := h
        exact ⟨_, hnode, by rw [Node.example?_eq_none_iff.2 hoverflows]; rfl⟩
  | .field path =>
    refine Finds.bind (Q := fun node found => some (.ofLookup (node.field path)) = found)
      (finds_compiled schema) (fun node _ => .pure _) |>.congr ?_
    intro found
    constructor
    · rintro ⟨node, hnode, rfl⟩
      exact Task.Answers.rules hnode
    · intro h
      cases found with
      | some answer =>
        obtain _ | _ | hnode := h
        exact ⟨_, hnode, rfl⟩
      | none => cases h

theorem finds_answer (lawful : files.Lawful) (job : Job) : Finds (job.answer? files) s (job.EndsIn files s) :=
  (finds_readSchema lawful job.source).bind fun schema _ => finds_taskAnswer lawful schema job.task

def Job.line (job : Job) (answer : Answer) : String := answer.text job.layout ++ "\n"

/-- The run put the answer in the file that is asked for, or else on the standard output, and nothing anywhere
else; it counts as a lack of success only if the answer finds the payload of a validation wrong. -/
structure Job.Delivers (files : FileAccess (StateM σ)) (s : σ) (job : Job) (answer : Answer) (ending : Outcome × σ) :
    Prop where
  prints : job.output = none → ending.1.printed = job.line answer ∧ ending.2 = s
  writes (name : String) : job.output = some name →
    ending.1.printed = "" ∧ (files.write name (job.line answer)).run s = (.ok (), ending.2)
  report : ending.1.report? = none
  code : ending.1.code = 0 ∨ ending.1.code = 1
  code_eq_one_iff : ending.1.code = 1 ↔
    ∃ payload options found, job.task = .validate payload options ∧ answer = .report found ∧ found.valid = false

/-- The run reported a failure, printed nothing and left all files as they were. -/
structure GivesUp (s : σ) (ending : Outcome × σ) : Prop where
  report : ∃ failure : Failure, ending.1.report? = some failure.report
  code : ending.1.code = 1
  printed : ending.1.printed = ""
  keeps : ending.2 = s

/-- The run broke off with no answer and no report, and left all files as they were. -/
structure BreaksOff (s : σ) (ending : Outcome × σ) : Prop where
  report : ending.1.report? = none
  code : ending.1.code = 101
  printed : ending.1.printed = ""
  keeps : ending.2 = s

/-- No answer of the job can be written to the file that is asked for. -/
def Job.Stuck (files : FileAccess (StateM σ)) (s : σ) (job : Job) : Prop :=
  ∀ answer, job.Answers files s answer →
    ∃ name fault, job.output = some name ∧ ((files.write name (job.line answer)).run s).1 = .error fault

theorem Task.Answers.isSuccess_eq_false_iff {schema : Json} {task : Task} {answer : Answer}
    (h : task.Answers files s schema answer) :
    answer.isSuccess = false ↔
      ∃ payload options found, task = .validate payload options ∧ answer = .report found ∧ found.valid = false := by
  cases h with
  | report hvalue => simp [Answer.isSuccess]
  | value hnode => simp [Answer.isSuccess]
  | rules hnode =>
    rename_i path node
    cases node.field path with
    | resolved found => simp [Answer.ofLookup, Answer.isSuccess]
    | unresolved place reason => simp [Answer.ofLookup, Answer.isSuccess]

theorem givesUp_failed (failure : Failure) : GivesUp s (.failed failure, s) :=
  ⟨⟨failure, rfl⟩, rfl, rfl, rfl⟩

theorem delivers_done {job : Job} {answer : Answer} {printed : String} {s' : σ} (hanswer : job.Answers files s answer)
    (hprints : job.output = none → printed = job.line answer ∧ s' = s)
    (hwrites : ∀ name, job.output = some name →
      printed = "" ∧ (files.write name (job.line answer)).run s = (.ok (), s')) :
    job.Delivers files s answer (.done answer.isSuccess printed, s') := by
  obtain ⟨schema, -, htask⟩ := hanswer
  have hcode : (Outcome.done answer.isSuccess printed).code = if answer.isSuccess then 0 else 1 := by
    cases answer.isSuccess with
    | true => rfl
    | false => rfl
  refine ⟨hprints, hwrites, rfl, ?_, ?_⟩
  · rw [hcode]
    split
    · exact .inl rfl
    · exact .inr rfl
  · have hone : (Outcome.done answer.isSuccess printed).code = 1 ↔ answer.isSuccess = false := by
      rw [hcode]
      simp
    rw [hone]
    exact htask.isSuccess_eq_false_iff

theorem run_job {arguments : List String} {job : Job} (hjob : Request.ofArguments arguments = .ok (.job job)) :
    (run files arguments).run s =
      match (job.perform files).run.run s with
      | (.ok outcome, s') => (outcome, s')
      | (.error failure, s') => (.failed failure, s') := by
  unfold run
  rw [hjob]
  rcases hrun : (job.perform files).run.run s with ⟨result, s'⟩
  simp only [StateT.run_bind, hrun]
  cases result with
  | ok outcome => rfl
  | error failure => rfl

theorem run_put_none (success : Bool) (text : String) :
    (put files none success text).run.run s = (.ok (.done success (text ++ "\n")), s) := rfl

theorem run_put_some (name : String) (success : Bool) (text : String) :
    (put files (some name) success text).run.run s =
      match (files.write name (text ++ "\n")).run s with
      | (.ok _, s') => (.ok (.done success ""), s')
      | (.error fault, s') => (.error (.unwritable name fault), s') := by
  unfold put
  rcases hwrite : (files.write name (text ++ "\n")).run s with ⟨result, s'⟩
  rw [ExceptT.run_bind, StateT.run_bind, run_lift, hwrite]
  cases result with
  | ok _ => rfl
  | error fault => rfl

theorem run_of_endsIn (lawful : files.Lawful) {arguments : List String} {job : Job}
    (hjob : Request.ofArguments arguments = .ok (.job job)) {found : Option Answer} (h : job.EndsIn files s found) :
    (run files arguments).run s =
      match (job.deliver files found).run.run s with
      | (.ok outcome, s') => (outcome, s')
      | (.error failure, s') => (.failed failure, s') := by
  have hfinds := finds_answer (s := s) lawful job
  obtain ⟨found', hfound, hrun⟩ | ⟨failure, hnone, -⟩ := hfinds.run_eq_or
  · obtain rfl := hfinds.unique h hfound
    rw [run_job hjob, perform_eq, run_bind_ok hrun]
  · exact absurd h (hnone found)

/-- An answer goes where it is to go, or cannot be written and changes nothing. -/
theorem delivers_or_givesUp_of_answers (lawful : files.Lawful) {arguments : List String} {job : Job}
    (hjob : Request.ofArguments arguments = .ok (.job job)) {answer : Answer} (hanswer : job.Answers files s answer) :
    job.Delivers files s answer ((run files arguments).run s) ∨
      job.Stuck files s ∧ GivesUp s ((run files arguments).run s) := by
  have hends : job.EndsIn files s (some answer) := hanswer
  rw [run_of_endsIn lawful hjob hends, Job.deliver]
  cases houtput : job.output with
  | none =>
    left
    rw [run_put_none]
    refine delivers_done hanswer (fun _ => ⟨rfl, rfl⟩) ?_
    intro name hname
    rw [houtput] at hname
    cases hname
  | some name =>
    rw [run_put_some]
    rcases hwrite : (files.write name (job.line answer)).run s with ⟨result, s'⟩
    have hline : (files.write name (answer.text job.layout ++ "\n")).run s = (result, s') := hwrite
    rw [hline]
    cases result with
    | ok _ =>
      left
      refine delivers_done hanswer ?_ ?_
      · intro hnone
        rw [houtput] at hnone
        cases hnone
      · intro name' hname
        rw [houtput] at hname
        cases hname
        exact ⟨rfl, hwrite⟩
    | error fault =>
      right
      have hkeeps := lawful.write_keeps name (job.line answer) s fault (by rw [hwrite])
      obtain rfl : s' = s := by rw [← hkeeps, hwrite]
      refine ⟨?_, givesUp_failed _⟩
      intro other hother
      have hends' : job.EndsIn files s' (some other) := hother
      obtain rfl := Option.some.inj ((finds_answer lawful job).unique hends hends')
      exact ⟨name, fault, houtput, by rw [hwrite]⟩

theorem givesUp_of_not_endsIn (lawful : files.Lawful) {arguments : List String} {job : Job}
    (hjob : Request.ofArguments arguments = .ok (.job job)) (hnone : ∀ found, ¬ job.EndsIn files s found) :
    GivesUp s ((run files arguments).run s) := by
  obtain ⟨found, hfound, -⟩ | ⟨failure, -, hrun⟩ := (finds_answer (s := s) lawful job).run_eq_or
  · exact absurd hfound (hnone found)
  · have hperform : (job.perform files).run.run s = (.error failure, s) := by
      rw [perform_eq, run_bind_error hrun]
    rw [run_job hjob, hperform]
    exact givesUp_failed failure

theorem breaksOff_of_overflows (lawful : files.Lawful) {arguments : List String} {job : Job}
    (hjob : Request.ofArguments arguments = .ok (.job job)) (h : job.Overflows files s) :
    BreaksOff s ((run files arguments).run s) := by
  have hends : job.EndsIn files s none := h
  rw [run_of_endsIn lawful hjob hends]
  exact ⟨rfl, rfl, rfl, rfl⟩

theorem BreaksOff.not_delivers {job : Job} {answer : Answer} {ending : Outcome × σ} (h : BreaksOff s ending) :
    ¬ job.Delivers files s answer ending := by
  intro hdelivers
  obtain hcode | hcode := hdelivers.code
  · rw [h.code] at hcode
    cases hcode
  · rw [h.code] at hcode
    cases hcode

theorem BreaksOff.not_givesUp {ending : Outcome × σ} (h : BreaksOff s ending) : ¬ GivesUp s ending := by
  intro hgivesUp
  have hcode := hgivesUp.code
  rw [h.code] at hcode
  cases hcode

theorem Job.Delivers.not_givesUp {job : Job} {answer : Answer} {ending : Outcome × σ}
    (h : job.Delivers files s answer ending) : ¬ GivesUp s ending := by
  intro hgivesUp
  obtain ⟨failure, hreport⟩ := hgivesUp.report
  rw [h.report] at hreport
  cases hreport

theorem delivers_or_givesUp_of_not_overflows (lawful : files.Lawful) {arguments : List String} {job : Job}
    (hjob : Request.ofArguments arguments = .ok (.job job)) (h : ¬ job.Overflows files s) :
    (∃ answer, job.Answers files s answer ∧ job.Delivers files s answer ((run files arguments).run s)) ∨
      job.Stuck files s ∧ GivesUp s ((run files arguments).run s) := by
  by_cases hanswers : ∃ answer, job.Answers files s answer
  · obtain ⟨answer, hanswer⟩ := hanswers
    obtain hdelivers | hgivesUp := delivers_or_givesUp_of_answers lawful hjob hanswer
    · exact .inl ⟨answer, hanswer, hdelivers⟩
    · exact .inr hgivesUp
  · have hnone : ∀ answer, ¬ job.Answers files s answer := fun answer hanswer => hanswers ⟨answer, hanswer⟩
    refine .inr ⟨fun answer hanswer => absurd hanswer (hnone answer), givesUp_of_not_endsIn lawful hjob ?_⟩
    intro found hfound
    cases found with
    | some answer => exact hnone answer hfound
    | none => exact h hfound

theorem Task.Overflows.exists_compile_eq_ok {schema : Json} {task : Task} (h : task.Overflows schema) :
    ∃ node, Node.compile schema = .ok node := by
  obtain ⟨hnode, -⟩ := h
  exact ⟨_, hnode⟩

/-- A run ends in one of two ways, unless it is to make an example that gets too long. Either the answer of its job is
written in one place, with the exit code 1 just if it finds a payload wrong; or there is no answer that can be written,
and nothing changes. Where the schema cannot be compiled, the exit code is 1 both ways. For an example that gets too long
the run breaks off: nothing changes either, but nothing is reported. -/
theorem run_delivers_xor_givesUp (lawful : files.Lawful) {arguments : List String} {job : Job}
    (hjob : Request.ofArguments arguments = .ok (.job job)) (s : σ) :
    (Xor (∃ answer, job.Answers files s answer ∧ job.Delivers files s answer ((run files arguments).run s))
      (job.Stuck files s ∧ GivesUp s ((run files arguments).run s)) ↔ ¬ job.Overflows files s) ∧
    (job.Overflows files s → BreaksOff s ((run files arguments).run s)) ∧
    ∀ schema e, job.source.Means files s schema → Node.compile schema = .error e →
      ((run files arguments).run s).1.code = 1 := by
  refine ⟨⟨?_, ?_⟩, breaksOff_of_overflows lawful hjob, ?_⟩
  · intro hxor hoverflows
    have hbreaksOff := breaksOff_of_overflows lawful hjob hoverflows
    obtain ⟨answer, -, hdelivers⟩ | ⟨-, hgivesUp⟩ := ((xor_iff_or_and_not_and _ _).1 hxor).1
    · exact hbreaksOff.not_delivers hdelivers
    · exact hbreaksOff.not_givesUp hgivesUp
  · intro h
    refine (xor_iff_or_and_not_and _ _).2 ⟨delivers_or_givesUp_of_not_overflows lawful hjob h, ?_⟩
    rintro ⟨⟨answer, -, hdelivers⟩, -, hgivesUp⟩
    exact hdelivers.not_givesUp hgivesUp
  · intro schema e hmeans hcompile
    have hnot : ¬ job.Overflows files s := by
      rintro ⟨schema', hmeans', htask⟩
      obtain rfl := (finds_readSchema lawful job.source).unique hmeans hmeans'
      obtain ⟨node, hnode⟩ := htask.exists_compile_eq_ok
      rw [hcompile] at hnode
      cases hnode
    obtain ⟨answer, ⟨schema', hmeans', htask⟩, hdelivers⟩ | ⟨-, hgivesUp⟩ :=
      delivers_or_givesUp_of_not_overflows lawful hjob hnot
    · obtain rfl := (finds_readSchema lawful job.source).unique hmeans hmeans'
      refine hdelivers.code_eq_one_iff.2 ?_
      generalize htaskName : job.task = task at htask
      cases htask with
      | report _ =>
        refine ⟨_, _, _, rfl, rfl, ?_⟩
        rw [Schemata.validate, hcompile]
        rfl
      | value hnode _ =>
        rw [hcompile] at hnode
        cases hnode
      | rules hnode =>
        rw [hcompile] at hnode
        cases hnode
    · exact hgivesUp.code

/-- Two files, and a validation that writes its report to a third. -/
def leastDirectory : Directory := ⟨[("least.json", "\x7b\"minimum\":3\x7d"), ("two.json", "2")]⟩

def leastArguments : List String := ["-o", "report.json", "validate", "two.json", "--schema", "least.json"]

def leastJob : Job := { task := .validate "two.json" {}, source := .file "least.json", output := some "report.json" }

theorem parse_least : Json.parse "\x7b\"minimum\":3\x7d" = .ok (.object [("minimum", .number (.ofNat 3))]) := by
  have hmembers : Json.Reader.members 126 12 "\"minimum\":3\x7d".toList (by decide) [] =
      .ok (.object [("minimum", .number (.ofNat 3))], ⟨[], by decide⟩) := by cbv
  exact Json.parse_of_value (Json.Reader.value_of_members hmembers) rfl

theorem exists_answers_leastJob : ∃ answer, leastJob.Answers Directory.access leastDirectory answer := by
  have hschema : HoldsDocument Directory.access leastDirectory "least.json" (.object [("minimum", .number (.ofNat 3))]) :=
    ⟨_, rfl, parseDocument_of_parse (by with_unfolding_all rfl) parse_least⟩
  have hpayload : HoldsDocument Directory.access leastDirectory "two.json" (.number (.ofNat 2)) :=
    ⟨_, rfl, parseDocument_of_parse (by with_unfolding_all rfl) (by cbv)⟩
  exact ⟨_, _, .file hschema, .report hpayload⟩

/-- The report is in the new file, and the others are as they were. -/
theorem run_delivers_xor_givesUp_validate :
    let ending := (run Directory.access leastArguments).run leastDirectory
    Directory.access.Lawful ∧ Request.ofArguments leastArguments = .ok (.job leastJob) ∧
      ¬ leastJob.Overflows Directory.access leastDirectory ∧
      ∃ answer, leastJob.Answers Directory.access leastDirectory answer ∧
        leastJob.Delivers Directory.access leastDirectory answer ending ∧
        ending.2.files.lookup "report.json" = some (leastJob.line answer) ∧
        ∀ other, other ≠ "report.json" → ending.2.files.lookup other = leastDirectory.files.lookup other := by
  have hjob : Request.ofArguments leastArguments = .ok (.job leastJob) := by rfl
  have hnot : ¬ leastJob.Overflows Directory.access leastDirectory := by
    rintro ⟨_, -, htask⟩
    cases htask
  have hxor := (run_delivers_xor_givesUp Directory.lawful_access hjob leastDirectory).1.2 hnot
  refine ⟨Directory.lawful_access, hjob, hnot, ?_⟩
  obtain ⟨answer, hanswer, hdelivers⟩ | ⟨hstuck, -⟩ := ((xor_iff_or_and_not_and _ _).1 hxor).1
  · obtain ⟨-, hwrite⟩ := hdelivers.writes "report.json" rfl
    obtain ⟨file, hfile, hlookup, hothers⟩ := Directory.exists_lookup_of_write (Directory.write_of_access hwrite)
    obtain rfl : "report.json" = file := Except.ok.inj hfile
    exact ⟨answer, hanswer, hdelivers, hlookup, hothers⟩
  · obtain ⟨answer, hanswer⟩ := exists_answers_leastJob
    obtain ⟨name, fault, hname, hfault⟩ := hstuck answer hanswer
    obtain rfl := Option.some.inj hname
    cases hfault

/-- A schema that asks for texts longer than any text can be. -/
def hugeDirectory : Directory :=
  ⟨[("s.json", "\x7b\"type\":\"string\",\"minLength\":18446744073709551615\x7d")]⟩

def hugeSchema : Json :=
  .object [("type", .string "string"), ("minLength", .number (.ofNat 18446744073709551615))]

theorem parse_huge : Json.parse "\x7b\"type\":\"string\",\"minLength\":18446744073709551615\x7d" = .ok hugeSchema := by
  have hmembers :
      Json.Reader.members 126 49 "\"type\":\"string\",\"minLength\":18446744073709551615\x7d".toList (by decide) [] =
        .ok (hugeSchema, ⟨[], by decide⟩) := by cbv
  exact Json.parse_of_value (Json.Reader.value_of_members hmembers) rfl

def hugeNode : Node := .schema { kind := some .string, minLength := some 18446744073709551615 } [] none .open []

/-- The run answers nothing, and does not give up either. -/
theorem not_delivers_or_givesUp_of_huge :
    let arguments := ["example", "--schema", "s.json"]
    let job : Job := { task := .example {}, source := .file "s.json" }
    let ending := (run Directory.access arguments).run hugeDirectory
    Request.ofArguments arguments = .ok (.job job) ∧ Node.compile hugeSchema = .ok hugeNode ∧
      job.source.Means Directory.access hugeDirectory hugeSchema ∧ job.Overflows Directory.access hugeDirectory ∧
      BreaksOff hugeDirectory ending ∧ (∀ answer, ¬ job.Delivers Directory.access hugeDirectory answer ending) ∧
      ¬ GivesUp hugeDirectory ending := by
  have hjob : Request.ofArguments ["example", "--schema", "s.json"] =
      .ok (.job { task := .example {}, source := .file "s.json" }) := by rfl
  have hcompile : Node.compile hugeSchema = .ok hugeNode := by with_unfolding_all rfl
  have hmeans : (SchemaSource.file "s.json").Means Directory.access hugeDirectory hugeSchema :=
    .file ⟨_, rfl, parseDocument_of_parse (by with_unfolding_all rfl) parse_huge⟩
  have hnode : hugeNode.Overflows {} 0 :=
    ⟨(0, hugeNode), .refl, ⟨rfl, rfl⟩, rfl, _, .word rfl rfl, fitOverflows_iff.1 (by decide)⟩
  have hbreaksOff := breaksOff_of_overflows Directory.lawful_access hjob ⟨_, hmeans, .intro hcompile hnode⟩
  exact ⟨hjob, hcompile, hmeans, ⟨_, hmeans, .intro hcompile hnode⟩, hbreaksOff, fun _ => hbreaksOff.not_delivers,
    hbreaksOff.not_givesUp⟩

end

end Command

end Schemata
