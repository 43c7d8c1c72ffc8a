import GraphContracts.Log.Program

namespace GraphContracts.Log

/-- Something logged: an event of the library, or a message from elsewhere. -/
inductive Message where
  | event (time : String) (e : Event)
  | relayed (time : String) (e : Event)

def Message.lines (setup : Option LoggingConfig) (contract : Option String) :
    Message → List (String × String)
  | .event time e =>
    match setup with
    | none => [("stdout", consoleLine Journal.levelWidth (members ⟨time, contract⟩ none e))]
    | some c =>
      let es := members ⟨time, contract⟩ (some e.logger) e
      Journal.linesFor c e.level es (Datum.map es).literal
  | .relayed time e =>
    match setup with
    | none => if Level.warning ≤ e.level then [("stderr", e.name)] else []
    | some c =>
      Journal.linesFor c e.level (members ⟨time, contract⟩ (some e.logger) e) e.name

/-- What a program comes to: its messages, each with the contract that is running then, the contract
at its end, and whether an exception leaves it. -/
structure Meaning where
  messages : List (Message × Option String)
  contract : Option String
  raised : Bool

namespace Program

variable {p : Program} {j : Journal}

/-- The meaning of a program by its text. -/
def meaning : Program → Option String → Meaning
  | .skip, current => ⟨[], current, false⟩
  | .raise, current => ⟨[], current, true⟩
  | .setContract id, _ => ⟨[], some id, false⟩
  | .clearContract, _ => ⟨[], none, false⟩
  | .log time e, current => ⟨[(.event time e, current)], current, false⟩
  | .relay time e, current => ⟨[(.relayed time e, current)], current, false⟩
  | .contract id body, current => { body.meaning (some id) with contract := current }
  | .attempt body, current => { body.meaning current with raised := false }
  | .seq first second, current =>
    let before := first.meaning current
    if before.raised then before
    else
      let after := second.meaning before.contract
      { after with messages := before.messages ++ after.messages }

/-- Whether a program leaves the contract alone, but for blocks within it. -/
def keepsContract : Program → Bool
  | .setContract _ => false
  | .clearContract => false
  | .attempt body => body.keepsContract
  | .seq first second => first.keepsContract && second.keepsContract
  | _ => true

end Program

namespace Journal

/-- The journal after something that means `m`. -/
def after (j : Journal) (m : Meaning) : Journal :=
  { j with
    contract := m.contract
    written := j.written ++ m.messages.flatMap fun (message, id) => message.lines j.setup id }

theorem log_eq_after (j : Journal) (time : String) (e : Event) :
    j.log time e = j.after ⟨[(.event time e, j.contract)], j.contract, false⟩ := by
  simp only [after, List.flatMap_cons, List.flatMap_nil, List.append_nil]
  rfl

theorem relay_eq_after (j : Journal) (time : String) (e : Event) :
    j.relay time e = j.after ⟨[(.relayed time e, j.contract)], j.contract, false⟩ := by
  simp only [after, List.flatMap_cons, List.flatMap_nil, List.append_nil]
  rfl

theorem after_of_silent (j : Journal) (contract : Option String) (raised : Bool) :
    j.after ⟨[], contract, raised⟩ = { j with contract := contract } := by
  rw [after, List.flatMap_nil, List.append_nil]

theorem leave?_after_enter (j : Journal) (id : String) (m : Meaning) :
    ((j.enter id).after m).leave? = some (j.after { m with contract := j.contract }) := rfl

theorem after_after (j : Journal) (m n : Meaning) :
    (j.after m).after n = j.after { n with messages := m.messages ++ n.messages } := by
  simp only [after, List.flatMap_append, List.append_assoc]

end Journal

namespace Program

variable {p : Program} {j : Journal}

/-- Running a program comes to what its text means. Each block finds on the stack what it has put
there, however it is left. -/
theorem run_eq_after (p : Program) (j : Journal) :
    p.run j = some (j.after (p.meaning j.contract), (p.meaning j.contract).raised) := by
  induction p generalizing j with
  | skip | raise => simp only [run, meaning, Journal.after_of_silent]
  | setContract | clearContract =>
    simp only [run, meaning, Journal.after_of_silent]
    rfl
  | log time e => rw [run, Journal.log_eq_after, meaning]
  | relay time e => rw [run, Journal.relay_eq_after, meaning]
  | contract id body ih =>
    -- the body starts on its own id; leaving puts back the one below, whatever the body did
    have hbody := ih (j.enter id)
    have hinside : (j.enter id).contract = some id := rfl
    rw [hinside] at hbody
    simp only [run, hbody, Option.bind_eq_bind, Option.bind_some, Journal.leave?_after_enter]
    rfl
  | attempt body ih =>
    simp only [run, ih, Option.bind_eq_bind, Option.bind_some]
    rfl
  | seq first second ihfirst ihsecond =>
    -- the second part starts from the contract that the first one leaves
    have hsecond := ihsecond (j.after (first.meaning j.contract))
    have hbetween : (j.after (first.meaning j.contract)).contract =
        (first.meaning j.contract).contract := rfl
    rw [hbetween, Journal.after_after] at hsecond
    simp only [run, ihfirst, Option.bind_eq_bind, Option.bind_some, meaning]
    split
    · rename_i hraised
      rw [hraised]
    · exact hsecond

theorem contract_meaning_of_keepsContract (h : p.keepsContract = true) (current : Option String) :
    (p.meaning current).contract = current := by
  induction p with
  | setContract | clearContract => cases h
  | attempt body ih => exact ih h
  | seq first second ihfirst ihsecond =>
    obtain ⟨hfirst, hsecond⟩ := Bool.and_eq_true_iff.1 h
    simp only [meaning]
    split
    · exact ihfirst hfirst
    · rw [ihfirst hfirst]
      exact ihsecond hsecond
  | _ => rfl

theorem meaning_suite (tests : List (String × Program)) (current : Option String) :
    (suite tests).meaning current =
      ⟨tests.flatMap fun (node, body) ↦ (body.meaning (some node)).messages, current, false⟩ := by
  induction tests with
  | nil => rfl
  | cons test tests ih =>
    have htest : (suite (test :: tests)).meaning current =
        { (suite tests).meaning current with
          messages := (test.2.meaning (some test.1)).messages ++
            ((suite tests).meaning current).messages } := rfl
    rw [htest, ih]
    rfl

end Program

theorem get?_contract_members (occasion : Occasion) (logger : Option String) (e : Event) :
    Entries.get? "contract_id" (members occasion logger e) =
      (e.fields.lookup "contract_id").or (occasion.contract.map .text) := by
  obtain ⟨time, contract⟩ := occasion
  have hset : ∀ key ∈ ["logger", "level", "timestamp"], ∀ v es,
      Entries.get? "contract_id" (Entries.set (.text key) v es) =
        Entries.get? "contract_id" es := by
    intro key hkey v es
    refine Entries.get?_set_of_ne ?_ v es
    rintro rfl
    exact absurd hkey (by decide)
  simp only [List.forall_mem_cons] at hset
  obtain ⟨hlogger, hlevel, htimestamp, -⟩ := hset
  have hevent : Entries.get? "contract_id" [(.text "event", .text e.name)] = none := rfl
  cases contract with
  | none =>
    cases logger <;>
      simp only [members, hlogger, hlevel, htimestamp, Entries.get?_append, Entries.get?_texts,
        hevent, Option.map_none]
  | some id =>
    have htagged : ∀ told : Entries, Entries.get? "contract_id"
        (if Entries.has "contract_id" told then told
          else told ++ [(.text "contract_id", .text id)]) =
          (Entries.get? "contract_id" told).or (some (.text id)) := by
      intro told
      cases hown : Entries.get? "contract_id" told with
      | none => simp [Entries.has, hown, Entries.get?_append, Entries.get?]
      | some d => simp [Entries.has, hown]
    cases logger <;>
      simp only [members, hlogger, hlevel, htimestamp, htagged, Entries.get?_append,
        Entries.get?_texts, hevent, Option.or_none, Option.map_some]

/-- How contracts nest, for every program and every journal that it starts from. The program always
has a result, and that is what its text means, each message written with the contract that is
running then; a block that is left, by an exception or not, gives back the contract from before it;
within a block the id is that of the block until something else is put in its place; and the tests
of a suite run with their own ids, whatever they do, and leave none behind. An event tells the
contract that is running, if there is one and the event has no such field of its own. -/
theorem Program.contracts_nest (p : Program) (j : Journal) :
    p.run j = some (j.after (p.meaning j.contract), (p.meaning j.contract).raised) ∧
    (∀ id, ∃ j', (Program.contract id p).run j = some (j', (p.meaning (some id)).raised) ∧
      j'.contract = j.contract ∧ j'.outer = j.outer) ∧
    (p.keepsContract = true → ∀ id, ∃ j' raised,
      p.run (j.enter id) = some (j', raised) ∧ j'.contract = some id) ∧
    (∀ tests, (suite tests).run j = some (j.after
      ⟨tests.flatMap fun (node, body) ↦ (body.meaning (some node)).messages, j.contract, false⟩,
        false)) ∧
    ∀ (time : String) (logger : Option String) (e : Event),
      Entries.get? "contract_id" (members ⟨time, j.contract⟩ logger e) =
        (e.fields.lookup "contract_id").or (j.contract.map .text) := by
  refine ⟨p.run_eq_after j, fun id ↦ ⟨_, run_eq_after _ j, rfl, rfl⟩, fun hkeeps id ↦ ?_,
    fun tests ↦ ?_, fun time logger e ↦ get?_contract_members _ logger e⟩
  · exact ⟨_, _, p.run_eq_after _, contract_meaning_of_keepsContract hkeeps _⟩
  · rw [run_eq_after, meaning_suite]

namespace Program.Failing

def told (name : String) : Event :=
  ⟨"contracts", .info, name, []⟩

def body : Program :=
  .seq (.log "" (told "before")) (.seq
    (.attempt (.contract "inner" (.seq (.log "" (told "inside"))
      (.seq .clearContract (.seq (.log "" (told "cleared")) .raise)))))
    (.log "" (told "behind")))

theorem contracts_of_body : body.keepsContract = true ∧
    ((Program.contract "outer" body).meaning none).messages.map (·.2) =
      [some "outer", some "inner", none, some "outer"] ∧
    ∃ j' raised, body.run (Journal.empty.enter "outer") = some (j', raised) ∧
      j'.contract = some "outer" :=
  ⟨rfl, rfl, (contracts_nest body .empty).2.2.1 rfl "outer"⟩

end Program.Failing

namespace Program.OwnField

def event : Event :=
  ⟨"contracts", .info, "inside", [("contract_id", .text "own")]⟩

def journal : Journal :=
  Journal.empty.configure ⟨.info, [⟨.json, "/run.log", none⟩]⟩

def line : String :=
  "\x7b\x22contract_id\x22: \x22own\x22, \x22event\x22: \x22inside\x22, \x22logger\x22: " ++
    "\x22contracts\x22, \x22level\x22: \x22info\x22, \x22timestamp\x22: \x22\x22\x7d"

theorem written_of_own : (journal.enter "t1").contract = some "t1" ∧
    ((Program.contract "t1" (.log "" event)).run journal).map (fun r ↦ r.1.written) =
      some [("/run.log", line)] := by
  refine ⟨rfl, ?_⟩
  decide +kernel

end Program.OwnField

end GraphContracts.Log
