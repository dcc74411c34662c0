import PageServer.Proofs.Requests
import PageServer.Proofs.Storage

/-!
Nothing that a request brings along becomes markup or a statement.

Main statements: a page is a word of the grammar of markup, whose elements and attribute names are
those of the program; and the statements that the store is given, which are the ones in the log, have
texts that are fixed by the program.
-/

namespace PageServer

namespace Endpoint

/-- A page is balanced markup, in which texts have no meaning of their own. -/
theorem page_isFragment (endpoint : Endpoint) (depth : Nat) (tables : List Table)
    (pathVars form : Fields String) (machine : Machine) {response : Response}
    (answered : (endpoint.run depth tables pathVars form machine).1 = .done response)
    (page : response.status = 200) :
    Markup.Fragment endpoint.AttributeName response.body := by
  -- Of the three kinds of response, only a page has this status.
  cases (endpoint.run_reaches depth tables pathVars form machine).2 response answered with
  | page fragment => exact fragment
  | elsewhere location => cases page
  | missing field => cases page

/-- A paragraph that shows what it was called with, in an attribute and in its body. -/
def echo : Endpoint where
  method := "GET"
  path := ⟨[.capture "said"]⟩
  body := .app (.app (.var "p") (.record [("title", .var "said")])) (.var "said")
  type := .primitive "html"

/-- A call with markup is shown, and is not markup. -/
theorem page_isFragment_echo :
    (echo.run 4 [] [("said", "\"><b>&amp;")] [] { clock := fun _ => 0 }).1 =
        .done { status := 200, body := "<p title=\"&quot;&gt;&lt;b&gt;&amp;amp;\">" ++
          "&quot;&gt;&lt;b&gt;&amp;amp;</p>" } ∧
      Markup.Fragment echo.AttributeName ("<p title=\"&quot;&gt;&lt;b&gt;&amp;amp;\">" ++
        "&quot;&gt;&lt;b&gt;&amp;amp;</p>") := by
  -- The endpoint is run on the fixed request; the theorem then tells what its text is.
  have shown : (echo.run 4 [] [("said", "\"><b>&amp;")] [] { clock := fun _ => 0 }).1 =
      .done { status := 200, body := "<p title=\"&quot;&gt;&lt;b&gt;&amp;amp;\">" ++
        "&quot;&gt;&lt;b&gt;&amp;amp;</p>" } := Outcome.eq_of_value? (by decide +kernel)
  exact ⟨shown, echo.page_isFragment 4 [] _ [] _ shown rfl⟩

end Endpoint

/-- Statements with these texts, one after the other, lead from one connection to another. -/
inductive Store.Connection.Runs (start : Connection) : List String → Connection → Prop where
  | none : Runs start [] start
  | further {texts : List String} {before : Connection} {α : Type} (text : String)
    (prepare : Store → Except Fault (Prepared α)) : Runs start texts before →
    Runs start (texts ++ [text]) (before.run text prepare).2

/-- Statements after statements are statements one after the other. -/
theorem Store.Connection.Runs.trans {first second third : Connection}
    {before after : List String} (earlier : first.Runs before second)
    (later : second.Runs after third) : first.Runs (before ++ after) third := by
  -- The induction is on the later statements, which come at the end.
  induction later with
  | none => simpa using earlier
  | further text prepare _ ih =>
    rw [← List.append_assoc]
    exact .further text prepare ih

namespace Endpoint

/-- The texts of statements that an endpoint is made for: its queries, and its insertions. -/
def Statement (endpoint : Endpoint) (sql : String) : Prop :=
  (∃ query ∈ endpoint.body.queries, Sql.select query = .ok sql) ∨
    ∃ table ∈ endpoint.body.targets, ∃ names, endpoint.RecordNames names ∧
      Sql.insert table names = .ok sql

/--
From one machine to another, the store is given the statements that are noted.

They are noted in the order in which they are given, and each has a text that the endpoint is made
for.
-/
def Sends (endpoint : Endpoint) (before after : Machine) : Prop :=
  ∃ new : List Log.Entry, after.log = before.log ++ new ∧
    before.connection.Runs (new.filterMap Log.Entry.statement?) after.connection ∧
    ∀ sql ∈ new.filterMap Log.Entry.statement?, endpoint.Statement sql

variable {endpoint : Endpoint}

/-- Where neither log nor connection changes, nothing is sent. -/
theorem Sends.nothing {before after : Machine} (log : after.log = before.log)
    (connection : after.connection = before.connection) : endpoint.Sends before after :=
  -- No entries are new, and no statement was given.
  ⟨[], by simp [log], by simpa [connection] using .none, by simp⟩

/-- What is sent in two stretches is sent in the whole. -/
theorem Sends.trans {first second third : Machine} (earlier : endpoint.Sends first second)
    (later : endpoint.Sends second third) : endpoint.Sends first third := by
  -- The notes of the second stretch follow those of the first.
  obtain ⟨before, beforeLog, beforeRuns, beforeTexts⟩ := earlier
  obtain ⟨after, afterLog, afterRuns, afterTexts⟩ := later
  refine ⟨before ++ after, by simp [afterLog, beforeLog], ?_, ?_⟩
  · rw [List.filterMap_append]
    exact beforeRuns.trans afterRuns
  · intro sql member
    rw [List.filterMap_append] at member
    rcases List.mem_append.mp member with one | other
    · exact beforeTexts sql one
    · exact afterTexts sql other

/-- One step sends at most one statement, and notes it. -/
theorem Step.sends {before after : Machine} (step : endpoint.Step before after) :
    endpoint.Sends before after := by
  -- Only a query and an insertion reach the store, each with the text that is noted.
  cases step with
  -- Counting and reading the clock touch neither the log nor the connection.
  | renumber | freshIdentity => exact .nothing rfl rfl
  | tick _ => exact .nothing rfl rfl
  | note plain =>
    rename_i entry
    exact ⟨[entry], rfl, by simpa [plain] using .none, by simp [plain]⟩
  | select arguments asked =>
    -- A query that cannot be written out sends nothing.
    rename_i query
    rcases Storage.select_cases query arguments with ⟨fault, same⟩ |
      ⟨sql, tail, given, text, _, same⟩
    · rw [same]
      exact .nothing rfl rfl
    · rw [same, Storage.selection_machine]
      -- Otherwise its text goes into the log and, with it, to the connection.
      refine ⟨[.query sql given.length], rfl, .further sql _ .none, ?_⟩
      intro sent member
      obtain rfl : sent = sql := by simpa [Log.Entry.statement?] using member
      exact Or.inl ⟨query, asked, text⟩
  | insert named names =>
    rename_i table fields
    -- The same holds for an insertion, whose column names are those of a record.
    rcases Storage.insert_cases table fields with ⟨fault, same⟩ | ⟨sql, supplied, text, same⟩
    · rw [same]
      exact .nothing rfl rfl
    · rw [same, Storage.insertion_machine]
      refine ⟨[.insert sql], rfl, .further sql _ .none, ?_⟩
      intro sent member
      obtain rfl : sent = sql := by simpa [Log.Entry.statement?] using member
      exact Or.inr ⟨table, named, fields.keys, names, text⟩

/-- What each step sends, a whole stretch of steps sends. -/
theorem Reaches.sends {before after : Machine} (reached : endpoint.Reaches before after) :
    endpoint.Sends before after := by
  -- The induction is on the steps, the last one taken off.
  induction reached with
  | refl => exact .nothing rfl rfl
  | tail _ step ih => exact ih.trans step.sends

/-- Statements are given to the store as they are noted, with texts fixed by the program alone. -/
theorem run_sends (endpoint : Endpoint) (depth : Nat) (tables : List Table)
    (pathVars form : Fields String) (machine : Machine) :
    endpoint.Sends machine (endpoint.run depth tables pathVars form machine).2 :=
  (endpoint.run_reaches depth tables pathVars form machine).1.sends

end Endpoint

end PageServer
