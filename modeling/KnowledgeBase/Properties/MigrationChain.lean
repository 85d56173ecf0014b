import KnowledgeBase.Library.Run
import KnowledgeBase.Library.SqlText
import KnowledgeBase.Storage.Migrations

/-!
# The chain of migrations

An attempt reads the ledger once and goes through the chain in order. It checks the checksum of every migration the
ledger has, but it does not ask whether one it executes stands before one the ledger has; and its scanner knows string
literals and no other quotes or comments. `migrationChain_iff` is the exact condition on the ledger and on the files
under which the chain is linear and every script is the file without its line comments.
-/

namespace KnowledgeBase

open SqlText

/-! ### the scanner -/

/-- At every `--` outside of line comments, an odd number of apostrophes stands before it outside of line comments if and
only if it is inside a literal, a quoted identifier or a block comment. -/
def dashesAgree : Bool → Place → Text → Bool
  | _, _, [] => true
  | odd, place, c :: rest =>
    if place = .line then dashesAgree odd (if c = '\n' then .code else .line) rest
    else if dashes c rest.head? then
      odd == (place != .code) && dashesAgree odd (if place = .code then .line else place.after c rest.head?) rest
    else dashesAgree (odd != (c == '\'')) (place.after c rest.head?) rest

/-- The scanner, with a doubled apostrophe read one by one. -/
def stripEach : Scan → Text → Text
  | _, [] => []
  | .string, c :: rest => c :: stripEach (if c = '\'' then .plain else .string) rest
  | .plain, c :: rest =>
    if c = '\'' then c :: stripEach .string rest
    else if dashes c rest.head? then stripEach .comment rest
    else c :: stripEach .plain rest
  | .comment, c :: rest => if c = '\n' then c :: stripEach .plain rest else stripEach .comment rest

theorem stripFrom_eq_stripEach (scan : Scan) (t : Text) : stripFrom scan t = stripEach scan t := by
  fun_induction stripFrom scan t with
  | case1 => cases ‹Scan› <;> rfl
  | case2 rest ih => simp [stripEach, ih]
  | case3 c rest h ih => rw [ih, stripEach]
  | case4 rest ih => simp [stripEach, ih]
  | case5 c rest h h' ih =>
    rw [ih, stripEach, if_neg h, if_pos]
    simpa [dashes] using h'
  | case6 c rest h h' ih =>
    rw [ih, stripEach, if_neg h, if_neg]
    simpa [dashes] using h'
  | case7 rest ih => simp [stripEach, ih]
  | case8 c rest h ih => simp [stripEach, ih, h]

theorem head_stripEach_comment (t : Text) : (stripEach .comment t).head?.all (· == '\n') = true := by
  induction t with
  | nil => rfl
  | cons c rest ih =>
    rw [stripEach]
    split
    · next hc =>
      subst hc
      rfl
    · exact ih

/-- The scanner in the string literals it sees. -/
def scanOf (odd : Bool) : Scan := if odd then .string else .plain

theorem stripEach_keep {odd : Bool} {c : Char} {rest : Text} (h : odd = true ∨ dashes c rest.head? = false) :
    stripEach (scanOf odd) (c :: rest) = c :: stripEach (scanOf (odd != (c == '\''))) rest := by
  cases odd with
  | true =>
    by_cases hc : c = '\'' <;> simp [scanOf, stripEach, hc]
  | false =>
    have hdashes : dashes c rest.head? = false := by simpa using h
    by_cases hc : c = '\'' <;> simp [scanOf, stripEach, hc, hdashes]

theorem removeLineComments_keep {place : Place} {c : Char} {rest : Text} (hline : place ≠ .line)
    (h : place ≠ .code ∨ dashes c rest.head? = false) :
    removeLineComments place (c :: rest) = c :: removeLineComments (place.after c rest.head?) rest := by
  have hdashes : (place = .code && dashes c rest.head?) = false := by
    rcases h with h | h <;> simp [h]
  cases place with
  | line => exact absurd rfl hline
  | code =>
    rw [removeLineComments, if_neg (by simpa using hdashes)]
    simp
  | _ =>
    rw [removeLineComments, if_neg (by simp)]
    simp

theorem removeLineComments_dashes {c : Char} {rest : Text} (h : dashes c rest.head? = true) :
    removeLineComments .code (c :: rest) = removeLineComments .line rest := by
  rw [removeLineComments, if_pos (by simp [h])]
  simp

theorem ne_cons_dash {t u : Text} {c : Char} (h : t.head?.all (· == '\n') = true) (hc : c = '-') : t ≠ c :: u := by
  rintro rfl
  subst hc
  simp at h

theorem place_after_ne_line {place : Place} (h : place ≠ .line) (c : Char) (next : Option Char) :
    place.after c next ≠ .line := by
  unfold Place.after
  cases place with
  | code => dsimp only; split <;> [exact nofun; (split <;> exact nofun)]
  | quoted close => dsimp only; split <;> exact nofun
  | block => dsimp only; split <;> exact nofun
  | line => exact absurd rfl h
  | _ => exact nofun

/-- The scanner and the text of SQL leave the same, at any place, if and only if they agree at the dashes ahead. -/
theorem stripEach_eq_iff (t : Text) :
    (∀ odd place, place ≠ .line →
      (stripEach (scanOf odd) t = removeLineComments place t ↔ dashesAgree odd place t = true)) ∧
    (stripEach .comment t = removeLineComments .line t ↔ dashesAgree false .line t = true) := by
  induction t with
  | nil => exact ⟨fun odd place _ => by cases odd <;> cases place <;> simp [stripEach, removeLineComments,
      dashesAgree], by simp [stripEach, removeLineComments, dashesAgree]⟩
  | cons c rest ih =>
    constructor
    · intro odd place hline
      rw [dashesAgree, if_neg hline]
      by_cases hdashes : dashes c rest.head? = true
      · have hc : c = '-' := by
          unfold dashes at hdashes
          simp only [Bool.and_eq_true, decide_eq_true_eq] at hdashes
          exact hdashes.1
        have hquote : (c == '\'') = false := by simp [hc]
        have hscan : stripEach .plain (c :: rest) = stripEach .comment rest := by
          rw [stripEach, if_neg (by simp [hc]), if_pos hdashes]
        rw [if_pos hdashes]
        by_cases hcode : place = .code
        · subst hcode
          rw [removeLineComments_dashes hdashes, if_pos rfl]
          cases odd with
          | false => simpa [scanOf, hscan] using ih.2
          | true =>
            -- the scanner keeps a dash that opens a comment
            rw [stripEach_keep (.inl rfl)]
            simpa using (ne_cons_dash (head_removeLineComments_line rest) hc).symm
        · rw [removeLineComments_keep hline (.inl hcode), if_neg hcode]
          cases odd with
          | false =>
            -- the scanner takes a dash for the beginning of a comment
            simpa [scanOf, hscan, hcode] using ne_cons_dash (head_stripEach_comment rest) hc
          | true =>
            rw [stripEach_keep (.inl rfl), hquote]
            simpa [hcode] using ih.1 true _ (place_after_ne_line hline c rest.head?)
      · have hdashes : dashes c rest.head? = false := by simpa using hdashes
        rw [stripEach_keep (.inr hdashes), removeLineComments_keep hline (.inr hdashes), if_neg (by simp [hdashes])]
        simpa using ih.1 (odd != (c == '\'')) _ (place_after_ne_line hline c rest.head?)
    · rw [stripEach, removeLineComments, dashesAgree, if_pos rfl]
      by_cases hc : c = '\n'
      · simpa [hc, scanOf] using ih.1 false .code (by simp)
      · simpa [hc] using ih.2

theorem stripSqlLineComments_eq_iff (t : Text) :
    stripSqlLineComments t = removeLineComments .code t ↔ dashesAgree false .code t = true := by
  unfold stripSqlLineComments
  rw [stripFrom_eq_stripEach]
  exact (stripEach_eq_iff t).1 false .code (by simp)

/-! ### the law of the chain -/

variable {σ : Type}

/-- The ledger consists of the migrations that are applied, with their checksums. -/
structure LedgerOf (applied pending : List Migration) (ledger : List (String × String)) : Prop where
  recorded : ∀ m ∈ applied, ledger.lookup m.migrationId = some m.checksum
  missing : ∀ m ∈ pending, ledger.lookup m.migrationId = none
  known : ∀ row ∈ ledger, ∃ m ∈ applied, m.migrationId = row.1

/-- The ledger is a prefix of the chain with equal checksums. -/
def LedgerPrefix (migrations : List Migration) (ledger : List (String × String)) : Prop :=
  ∃ applied pending, migrations = applied ++ pending ∧ LedgerOf applied pending ledger

/-- The file opens a transaction, makes changes in it, and ends with `COMMIT;`. -/
def Migration.Transactional (engine : Text → List (SqlStatement σ)) (m : Migration) : Prop :=
  ∃ (body : Text) (changes : List (σ → Option σ)), m.body? = some body ∧
    engine (removeLineComments .code body) = .begin :: changes.map .change

/-- The changes of the file without its line comments, and its row in the ledger. -/
def Migrates (engine : Text → List (SqlStatement σ)) (m : Migration) (s t : MigrationStore σ) : Prop :=
  ∃ (body : Text) (changes : List (σ → Option σ)) (schema : σ), m.body? = some body ∧
    engine (removeLineComments .code body) = .begin :: changes.map .change ∧
    changes.foldlM (fun schema effect => effect schema) s.schema = some schema ∧
    t = ⟨schema, (m.migrationId, m.checksum) :: s.ledger⟩

/-- Migrations one after the other, each once. -/
inductive MigratesAll (engine : Text → List (SqlStatement σ)) :
    List Migration → MigrationStore σ → MigrationStore σ → Prop
  | nil (s : MigrationStore σ) : MigratesAll engine [] s s
  | cons {m : Migration} {rest : List Migration} {s t u : MigrationStore σ} (head : Migrates engine m s t)
      (tail : MigratesAll engine rest t u) : MigratesAll engine (m :: rest) s u

/-- The store after attempts that were cut off one after the other. -/
def afterAttempts (engine : Text → List (SqlStatement σ)) (migrations : List Migration) (store : MigrationStore σ)
    (attempts : List Nat) : MigrationStore σ :=
  runFrom (fun store n => (applyMigrations engine migrations n store).store) store attempts

structure MigrationChain (engine : Text → List (SqlStatement σ)) (migrations : List Migration)
    (store : MigrationStore σ) : Prop where
  /-- A ledger that is no prefix of the chain is refused, and no script is given to the engine. -/
  refuses : ¬ LedgerPrefix migrations store.ledger → ∀ n, (applyMigrations engine migrations n store).started = [] ∧
    (applyMigrations engine migrations n store).store = store ∧
    ∃ error, (applyMigrations engine migrations n store).result = .raised error
  /-- However often it is cut off, the first of the pending migrations are executed, each once and with its row. -/
  executes : ∀ applied pending, migrations = applied ++ pending → LedgerOf applied pending store.ledger →
    ∀ attempts, ∃ done rest, pending = done ++ rest ∧
      MigratesAll engine done store (afterAttempts engine migrations store attempts) ∧
      ∀ n, ∃ attempt, applyMigrations engine migrations n (afterAttempts engine migrations store attempts) = attempt ∧
        attempt.started <+: rest.map (·.migrationId) ∧
        (attempt.result = .applied → MigratesAll engine pending store attempt.store)
  /-- An attempt that is not cut off executes them all, if they succeed. -/
  finishes : ∀ applied pending final, migrations = applied ++ pending → LedgerOf applied pending store.ledger →
    MigratesAll engine pending store final → ∃ enough, ∀ n, enough ≤ n →
      applyMigrations engine migrations n store = ⟨final, pending.map (·.migrationId), .applied⟩
  /-- Every script is the file without its line comments. -/
  scripts : ∀ m ∈ migrations, ∀ body, m.body? = some body → stripSqlLineComments body = removeLineComments .code body

/-- The ledger has a migration the chain does not. -/
def LedgerUnknown (migrations : List Migration) (ledger : List (String × String)) : Prop :=
  ∃ row ∈ ledger, ∀ m ∈ migrations, m.migrationId ≠ row.1

/-- The first migration that is not in the ledger as it is in the chain is missing, and a later one is there. -/
def LedgerGap (migrations : List Migration) (ledger : List (String × String)) : Prop :=
  ∃ before m after, migrations = before ++ m :: after ∧
    (∀ b ∈ before, ledger.lookup b.migrationId = some b.checksum) ∧ ledger.lookup m.migrationId = none ∧
    ∃ later ∈ after, (ledger.lookup later.migrationId).isSome

/-! ### one script -/

section script

variable {m : Migration} {s w : MigrationStore σ}

theorem executeScript_working (id checksum : String) (changes : List (σ → Option σ)) :
    ∀ (n : Nat) (w : MigrationStore σ),
    (∃ n' c result, executeScript n ⟨s, some w⟩ (changes.map .change ++ [.record id checksum, .commit]) =
        (n', c, result) ∧ result ≠ .applied ∧ c.committed = s) ∨
      ∃ n' schema, changes.foldlM (fun schema effect => effect schema) w.schema = some schema ∧
        executeScript n ⟨s, some w⟩ (changes.map .change ++ [.record id checksum, .commit]) =
          (n', ⟨⟨schema, (id, checksum) :: w.ledger⟩, none⟩, .applied) := by
  induction changes with
  | nil =>
    intro n w
    match n with
    | 0 => exact .inl ⟨_, _, _, rfl, nofun, rfl⟩
    | n + 1 =>
      by_cases hknown : (w.ledger.lookup id).isSome = true
      · refine .inl ⟨n, ⟨s, some w⟩, .raised engineError, ?_, nofun, rfl⟩
        simp [executeScript, MigrationConnection.execute, MigrationConnection.write, hknown]
      · match n with
        | 0 =>
          refine .inl ⟨0, ⟨s, some ⟨w.schema, (id, checksum) :: w.ledger⟩⟩, .interrupted, ?_, nofun, rfl⟩
          simp [executeScript, MigrationConnection.execute, MigrationConnection.write, hknown]
        | n + 1 =>
          refine .inr ⟨n, w.schema, rfl, ?_⟩
          simp [executeScript, MigrationConnection.execute, MigrationConnection.write, hknown]
  | cons effect changes ih =>
    intro n w
    match n with
    | 0 => exact .inl ⟨_, _, _, rfl, nofun, rfl⟩
    | n + 1 =>
      cases heffect : effect w.schema with
      | none =>
        refine .inl ⟨n, ⟨s, some w⟩, .raised engineError, ?_, nofun, rfl⟩
        simp [executeScript, MigrationConnection.execute, MigrationConnection.write, heffect]
      | some schema =>
        have step : executeScript (n + 1) ⟨s, some w⟩
            ((effect :: changes).map .change ++ [.record id checksum, .commit]) =
              executeScript n ⟨s, some { w with schema := schema }⟩
                (changes.map .change ++ [.record id checksum, .commit]) := by
          simp [executeScript, MigrationConnection.execute, MigrationConnection.write, heffect]
        rw [step]
        rcases ih n { w with schema := schema } with h | ⟨n', final, hfold, h⟩
        · exact .inl h
        · exact .inr ⟨n', final, by simp [List.foldlM, heffect, hfold], h⟩

theorem executeScript_enough {id checksum : String} {final : σ} (changes : List (σ → Option σ)) :
    ∀ (n : Nat) (w : MigrationStore σ), changes.foldlM (fun schema effect => effect schema) w.schema = some final →
      w.ledger.lookup id = none →
      executeScript (n + changes.length + 2) ⟨s, some w⟩ (changes.map .change ++ [.record id checksum, .commit]) =
        (n, ⟨⟨final, (id, checksum) :: w.ledger⟩, none⟩, .applied) := by
  induction changes with
  | nil =>
    intro n w hfold hnone
    obtain rfl : w.schema = final := by simpa using hfold
    simp [executeScript, MigrationConnection.execute, MigrationConnection.write, hnone]
  | cons effect changes ih =>
    intro n w hfold hnone
    cases heffect : effect w.schema with
    | none => simp [List.foldlM, heffect] at hfold
    | some schema =>
      have hfold : changes.foldlM (fun schema effect => effect schema) schema = some final := by
        simpa [List.foldlM, heffect] using hfold
      have h := ih n { w with schema := schema } hfold hnone
      rw [List.length_cons, show n + (changes.length + 1) + 2 = (n + changes.length + 2) + 1 by omega, ← h]
      simp [executeScript, MigrationConnection.execute, MigrationConnection.write, heffect]

end script

/-! ### an attempt -/

section attempt

theorem lookup_cons_of_ne {id k checksum : String} {ledger : List (String × String)} (h : id ≠ k) :
    List.lookup id ((k, checksum) :: ledger) = ledger.lookup id := by
  have hne : (id == k) = false := by simpa using h
  rw [List.lookup_cons, hne]

variable {engine : Text → List (SqlStatement σ)} {ledger : List (String × String)} {s t : MigrationStore σ}

/-- The scripts the engine is given are those of the law. -/
def GivenScripts (engine : Text → List (SqlStatement σ)) (migrations : List Migration) : Prop :=
  ∀ m ∈ migrations, ∃ (body : Text) (changes : List (σ → Option σ)), m.body? = some body ∧
    engine (removeLineComments .code body) = .begin :: changes.map .change ∧
    stripSqlLineComments body = removeLineComments .code body

theorem executeScript_migration {m : Migration} {body : Text} {changes : List (σ → Option σ)}
    (hbody : m.body? = some body) (hengine : engine (removeLineComments .code body) = .begin :: changes.map .change)
    (hstrip : stripSqlLineComments body = removeLineComments .code body) (n : Nat) (s : MigrationStore σ) :
    (∃ n' c result, executeScript n ⟨s, none⟩ (migrationScript engine m body) = (n', c, result) ∧ result ≠ .applied ∧
        c.committed = s) ∨
      ∃ n' t, Migrates engine m s t ∧
        executeScript n ⟨s, none⟩ (migrationScript engine m body) = (n', ⟨t, none⟩, .applied) := by
  unfold migrationScript
  rw [hstrip, hengine]
  match n with
  | 0 => exact .inl ⟨_, _, _, rfl, nofun, rfl⟩
  | n + 1 =>
    rcases executeScript_working (s := s) m.migrationId m.checksum changes n s with h | ⟨n', schema, hfold, h⟩
    · exact .inl h
    · exact .inr ⟨n', _, ⟨body, changes, schema, hbody, hengine, hfold, rfl⟩, h⟩

theorem applyPending_append {before : List Migration} (h : ∀ b ∈ before, ledger.lookup b.migrationId = some b.checksum)
    (rest : List Migration) (n : Nat) (s : MigrationStore σ) :
    applyPending engine ledger (before ++ rest) n s = applyPending engine ledger rest n s := by
  induction before with
  | nil => rfl
  | cons b before ih =>
    rw [List.cons_append, applyPending, h b List.mem_cons_self]
    simpa using ih fun b hb => h b (List.mem_cons_of_mem _ hb)

theorem applyPending_pending {pending : List Migration} (hscripts : GivenScripts engine pending)
    (hmissing : ∀ m ∈ pending, ledger.lookup m.migrationId = none) : ∀ (n : Nat) (s : MigrationStore σ),
    ∃ done rest attempt, pending = done ++ rest ∧ applyPending engine ledger pending n s = attempt ∧
      MigratesAll engine done s attempt.store ∧ attempt.started <+: pending.map (·.migrationId) ∧
      (attempt.result = .applied → rest = []) := by
  induction pending with
  | nil => exact fun n s => ⟨[], [], _, rfl, rfl, .nil s, List.prefix_rfl, fun _ => rfl⟩
  | cons m pending ih =>
    intro n s
    obtain ⟨body, changes, hbody, hengine, hstrip⟩ := hscripts m List.mem_cons_self
    rw [applyPending, hmissing m List.mem_cons_self]
    dsimp only
    rw [hbody]
    dsimp only
    rcases executeScript_migration hbody hengine hstrip n s with ⟨n', c, result, hrun, hresult, hc⟩ | ⟨n', t, hm, hrun⟩
    · refine ⟨[], m :: pending, ⟨s, [m.migrationId], result⟩, rfl, ?_, .nil s, ?_, fun h => absurd h hresult⟩
      · rw [hrun]
        cases result with
        | applied => exact absurd rfl hresult
        | _ => exact congrArg (fun store => (⟨store, _, _⟩ : Attempt σ)) hc
      · exact List.cons_prefix_cons.2 ⟨rfl, List.nil_prefix⟩
    · obtain ⟨done, rest, attempt, hsplit, happly, hall, hstarted, hend⟩ :=
        ih (fun m hm => hscripts m (List.mem_cons_of_mem _ hm)) (fun m hm => hmissing m (List.mem_cons_of_mem _ hm)) n' t
      refine ⟨m :: done, rest, { attempt with started := m.migrationId :: attempt.started }, by rw [hsplit]; rfl, ?_,
        .cons hm hall, List.cons_prefix_cons.2 ⟨rfl, hstarted⟩, hend⟩
      rw [hrun]
      dsimp only
      rw [happly]

theorem applyMigrations_known {migrations applied pending : List Migration} (hsplit : migrations = applied ++ pending)
    (h : LedgerOf applied pending s.ledger) (n : Nat) :
    applyMigrations engine migrations n s = applyPending engine s.ledger pending n s := by
  subst hsplit
  unfold applyMigrations
  rw [if_neg, applyPending_append h.recorded]
  simp only [List.any_eq_true, List.all_eq_true, decide_eq_true_eq, not_exists, not_and, not_forall]
  intro row hrow
  obtain ⟨m, hm, hid⟩ := h.known row hrow
  exact ⟨m, List.mem_append_left _ hm, by simpa using hid⟩

theorem ledgerOf_migrates {applied rest : List Migration} {m : Migration}
    (hnodup : ((applied ++ m :: rest).map (·.migrationId)).Nodup) (h : LedgerOf applied (m :: rest) s.ledger)
    (hm : Migrates engine m s t) : LedgerOf (applied ++ [m]) rest t.ledger := by
  obtain ⟨body, changes, schema, -, -, -, rfl⟩ := hm
  rw [List.map_append, List.nodup_append] at hnodup
  obtain ⟨-, hrest, hdisjoint⟩ := hnodup
  rw [List.map_cons, List.nodup_cons] at hrest
  refine ⟨fun q hq => ?_, fun q hq => ?_, fun row hrow => ?_⟩
  · rcases List.mem_append.1 hq with hq | hq
    · rw [lookup_cons_of_ne (hdisjoint _ (List.mem_map_of_mem hq) _ List.mem_cons_self)]
      exact h.recorded q hq
    · obtain rfl := List.mem_singleton.1 hq
      simp
  · have hne : q.migrationId ≠ m.migrationId := fun heq => hrest.1 (heq ▸ List.mem_map_of_mem hq)
    rw [lookup_cons_of_ne hne]
    exact h.missing q (List.mem_cons_of_mem _ hq)
  · rcases List.mem_cons.1 hrow with rfl | hrow
    · exact ⟨m, by simp, rfl⟩
    · obtain ⟨q, hq, hid⟩ := h.known row hrow
      exact ⟨q, List.mem_append_left _ hq, hid⟩

theorem ledgerOf_migratesAll {done : List Migration} : ∀ {applied rest : List Migration} {s : MigrationStore σ},
    ((applied ++ (done ++ rest)).map (·.migrationId)).Nodup → LedgerOf applied (done ++ rest) s.ledger →
      MigratesAll engine done s t → LedgerOf (applied ++ done) rest t.ledger := by
  induction done with
  | nil =>
    intro applied rest s _ h hall
    cases hall
    simpa using h
  | cons m done ih =>
    intro applied rest s hnodup h hall
    cases hall with
    | cons hm htail =>
      have hnext : LedgerOf ((applied ++ [m]) ++ done) rest t.ledger :=
        ih (by simpa using hnodup) (ledgerOf_migrates hnodup h hm) htail
      simpa using hnext

theorem MigratesAll.append {done more : List Migration} {u : MigrationStore σ} (h : MigratesAll engine done s t)
    (h' : MigratesAll engine more t u) : MigratesAll engine (done ++ more) s u := by
  induction h with
  | nil => exact h'
  | cons head tail ih => exact .cons head (ih h')

theorem applyPending_enough {pending : List Migration} (hscripts : GivenScripts engine pending)
    (hnodup : (pending.map (·.migrationId)).Nodup) (hmissing : ∀ m ∈ pending, ledger.lookup m.migrationId = none) :
    ∀ {s : MigrationStore σ}, (∀ m ∈ pending, s.ledger.lookup m.migrationId = none) → MigratesAll engine pending s t →
      ∃ enough, ∀ n, enough ≤ n →
        applyPending engine ledger pending n s = ⟨t, pending.map (·.migrationId), .applied⟩ := by
  induction pending with
  | nil =>
    intro s _ hall
    cases hall
    exact ⟨0, fun n _ => rfl⟩
  | cons m pending ih =>
    intro s hfree hall
    cases hall with
    | cons hm htail =>
      rename_i u
      rw [List.map_cons, List.nodup_cons] at hnodup
      obtain ⟨body, changes, schema, hbody, hengine, hfold, rfl⟩ := hm
      obtain ⟨body', changes', hbody', -, hstrip⟩ := hscripts m List.mem_cons_self
      obtain rfl := Option.some.inj (hbody.symm.trans hbody')
      have free : ∀ q ∈ pending, List.lookup q.migrationId ((m.migrationId, m.checksum) :: s.ledger) = none := by
        intro q hq
        have hne : q.migrationId ≠ m.migrationId := fun heq => hnodup.1 (heq ▸ List.mem_map_of_mem hq)
        rw [lookup_cons_of_ne hne]
        exact hfree q (List.mem_cons_of_mem _ hq)
      obtain ⟨enough, henough⟩ := ih (fun q hq => hscripts q (List.mem_cons_of_mem _ hq)) hnodup.2
        (fun q hq => hmissing q (List.mem_cons_of_mem _ hq)) free htail
      refine ⟨enough + changes.length + 3, fun n hn => ?_⟩
      obtain ⟨k, rfl⟩ : ∃ k, n = (k + changes.length + 2) + 1 := ⟨n - (changes.length + 3), by omega⟩
      have hrun : executeScript ((k + changes.length + 2) + 1) ⟨s, none⟩ (migrationScript engine m body) =
          (k, ⟨⟨schema, (m.migrationId, m.checksum) :: s.ledger⟩, none⟩, .applied) := by
        unfold migrationScript
        rw [hstrip, hengine, List.cons_append, executeScript]
        exact executeScript_enough changes k s hfold (hfree m List.mem_cons_self)
      rw [applyPending, hmissing m List.mem_cons_self]
      dsimp only
      rw [hbody]
      dsimp only
      rw [hrun]
      dsimp only
      rw [henough k (by omega)]
      rfl

theorem applyMigrations_unknown {migrations : List Migration} (h : LedgerUnknown migrations s.ledger) (n : Nat) :
    applyMigrations engine migrations n s =
      ⟨s, [], .raised ⟨"migration-unknown", "Database contains an unknown migration", 503⟩⟩ := by
  obtain ⟨row, hrow, hunknown⟩ := h
  unfold applyMigrations
  rw [if_pos]
  exact List.any_eq_true.2 ⟨row, hrow, List.all_eq_true.2 fun m hm => by simpa using hunknown m hm⟩

theorem applyMigrations_of_not_unknown {migrations : List Migration} (h : ¬ LedgerUnknown migrations s.ledger)
    (n : Nat) : applyMigrations engine migrations n s = applyPending engine s.ledger migrations n s := by
  unfold applyMigrations
  rw [if_neg]
  intro hany
  obtain ⟨row, hrow, hall⟩ := List.any_eq_true.1 hany
  exact h ⟨row, hrow, fun m hm => by simpa using List.all_eq_true.1 hall m hm⟩

theorem recorded_or_first (migrations : List Migration) (ledger : List (String × String)) :
    (∀ m ∈ migrations, ledger.lookup m.migrationId = some m.checksum) ∨
      ∃ before m after, migrations = before ++ m :: after ∧
        (∀ b ∈ before, ledger.lookup b.migrationId = some b.checksum) ∧
        ledger.lookup m.migrationId ≠ some m.checksum := by
  induction migrations with
  | nil => exact .inl fun _ h => nomatch h
  | cons m rest ih =>
    by_cases hm : ledger.lookup m.migrationId = some m.checksum
    · rcases ih with h | ⟨before, q, after, rfl, hbefore, hq⟩
      · exact .inl (List.forall_mem_cons.2 ⟨hm, h⟩)
      · exact .inr ⟨m :: before, q, after, rfl, List.forall_mem_cons.2 ⟨hm, hbefore⟩, hq⟩
    · exact .inr ⟨[], m, rest, rfl, List.forall_mem_nil _, hm⟩

/-- A ledger whose rows are all known and that has no gap is a prefix of the chain, or the attempt meets a checksum that
has changed before it executes anything. -/
theorem prefix_or_drift {migrations : List Migration} (hknown : ¬ LedgerUnknown migrations s.ledger)
    (hgap : ¬ LedgerGap migrations s.ledger) : LedgerPrefix migrations s.ledger ∨
      ∀ n, applyPending engine s.ledger migrations n s =
        ⟨s, [], .raised ⟨"migration-checksum-drift", "Migration checksum drift detected", 503⟩⟩ := by
  have known : ∀ row ∈ s.ledger, ∃ m ∈ migrations, m.migrationId = row.1 := by
    intro row hrow
    by_contra hnone
    exact hknown ⟨row, hrow, fun m hm heq => hnone ⟨m, hm, heq⟩⟩
  rcases recorded_or_first migrations s.ledger with hall | ⟨before, m, after, rfl, hbefore, hm⟩
  · exact .inl ⟨migrations, [], by simp, hall, List.forall_mem_nil _, known⟩
  cases hlookup : s.ledger.lookup m.migrationId with
  | some existing =>
    have hdrift : existing ≠ m.checksum := fun heq => hm (hlookup.trans (congrArg some heq))
    refine .inr fun n => ?_
    rw [applyPending_append hbefore, applyPending, hlookup]
    dsimp only
    rw [if_pos hdrift]
  | none =>
    have hafter : ∀ q ∈ after, s.ledger.lookup q.migrationId = none := by
      intro q hq
      by_contra hsome
      exact hgap ⟨before, m, after, rfl, hbefore, hlookup, q, hq, Option.isSome_iff_ne_none.2 hsome⟩
    refine .inl ⟨before, m :: after, rfl, hbefore, List.forall_mem_cons.2 ⟨hlookup, hafter⟩, fun row hrow => ?_⟩
    obtain ⟨q, hq, hid⟩ := known row hrow
    rcases List.mem_append.1 hq with hq | hq
    · exact ⟨q, hq, hid⟩
    · -- a pending migration has no row
      have hnone : s.ledger.lookup q.migrationId = none := by
        rcases List.mem_cons.1 hq with rfl | hq
        · exact hlookup
        · exact hafter q hq
      rw [hid] at hnone
      exact absurd (List.lookup_eq_none_iff.1 hnone row hrow) (by simp)

theorem LedgerPrefix.not_gap {migrations : List Migration} (hnodup : (migrations.map (·.migrationId)).Nodup)
    (h : LedgerPrefix migrations ledger) : ¬ LedgerGap migrations ledger := by
  rintro ⟨before, m, after, heq, hbefore, hm, later, hlater, hsome⟩
  obtain ⟨applied, pending, rfl, hledger⟩ := h
  have place {q : Migration} (hq : q ∈ applied ++ pending) (hnone : ledger.lookup q.migrationId = none) :
      q ∈ pending := by
    rcases List.mem_append.1 hq with hq | hq
    · cases (hledger.recorded q hq).symm.trans hnone
    · exact hq
  -- what comes after a pending migration is pending
  have hpending : later ∈ pending := by
    have hmem : m ∈ pending := place (heq ▸ by simp) hm
    rcases List.append_eq_append_iff.1 heq with ⟨more, hmore, hrest⟩ | ⟨more, hmore, hrest⟩
    · rw [hrest]
      simp [hlater]
    · cases more with
      | nil =>
        simp only [List.nil_append] at hrest
        rw [← hrest]
        simp [hlater]
      | cons q more =>
        obtain ⟨rfl, hafter⟩ := List.cons.inj hrest
        have happlied : m ∈ applied := by
          rw [hmore]
          simp
        cases (hledger.recorded m happlied).symm.trans hm
  rw [hledger.missing later hpending] at hsome
  cases hsome

/-- Attempts that are cut off leave the first of the pending migrations executed, and the others pending. -/
theorem afterAttempts_spec {migrations : List Migration} (hscripts : GivenScripts engine migrations)
    (hnodup : (migrations.map (·.migrationId)).Nodup) (attempts : List Nat) :
    ∀ {applied pending : List Migration} {s : MigrationStore σ}, migrations = applied ++ pending →
      LedgerOf applied pending s.ledger → ∃ done rest, pending = done ++ rest ∧
        MigratesAll engine done s (afterAttempts engine migrations s attempts) ∧
        LedgerOf (applied ++ done) rest (afterAttempts engine migrations s attempts).ledger := by
  induction attempts with
  | nil => exact fun _ h => ⟨[], _, rfl, .nil _, by rwa [List.append_nil]⟩
  | cons n attempts ih =>
    intro applied pending s hsplit h
    have hpending : GivenScripts engine pending := fun m hm => hscripts m (hsplit ▸ List.mem_append_right _ hm)
    obtain ⟨done, rest, attempt, rfl, happly, hall, -, -⟩ := applyPending_pending hpending h.missing n s
    have hrun : (applyMigrations engine migrations n s).store = attempt.store := by
      rw [applyMigrations_known hsplit h, happly]
    have hnext := ledgerOf_migratesAll (hsplit ▸ hnodup) h hall
    obtain ⟨more, left, rfl, hmore, hledger⟩ := ih (hsplit.trans (List.append_assoc ..).symm) hnext
    refine ⟨done ++ more, left, (List.append_assoc ..).symm, ?_, ?_⟩
    · unfold afterAttempts
      rw [runFrom_cons, hrun]
      exact hall.append hmore
    · unfold afterAttempts
      rw [runFrom_cons, hrun, ← List.append_assoc]
      exact hledger

end attempt

/-! ### the exact condition -/

/-- For files that open a transaction and end with `COMMIT;`, the chain is linear, atomic and executed as it is written
if and only if the ledger has an unknown migration or no gap, and the scanner agrees with the text of SQL at the dashes
of every file. -/
theorem migrationChain_iff (engine : Text → List (SqlStatement σ)) (migrations : List Migration)
    (store : MigrationStore σ) (hnodup : (migrations.map (·.migrationId)).Nodup)
    (htransactional : ∀ m ∈ migrations, m.Transactional engine) :
    MigrationChain engine migrations store ↔
      (LedgerUnknown migrations store.ledger ∨ ¬ LedgerGap migrations store.ledger) ∧
        ∀ m ∈ migrations, ∀ body, m.body? = some body → dashesAgree false .code body = true := by
  constructor
  · intro h
    refine ⟨?_, fun m hm body hbody => (stripSqlLineComments_eq_iff body).1 (h.scripts m hm body hbody)⟩
    by_cases hunknown : LedgerUnknown migrations store.ledger
    · exact .inl hunknown
    refine .inr fun hgap => ?_
    have hstarted := (h.refuses (fun hprefix => hprefix.not_gap hnodup hgap) 0).1
    obtain ⟨before, m, after, rfl, hbefore, hm, -⟩ := hgap
    obtain ⟨body, changes, hbody, hengine⟩ := htransactional m (by simp)
    -- the migration that is missing is started
    rw [applyMigrations_of_not_unknown hunknown, applyPending_append hbefore, applyPending, hm] at hstarted
    dsimp only at hstarted
    rw [hbody] at hstarted
    dsimp only at hstarted
    split at hstarted <;> cases hstarted
  · rintro ⟨hledger, hdashes⟩
    have scripts (m : Migration) (hm : m ∈ migrations) (body : Text) (hbody : m.body? = some body) :=
      (stripSqlLineComments_eq_iff body).2 (hdashes m hm body hbody)
    have hscripts : GivenScripts engine migrations := by
      intro m hm
      obtain ⟨body, changes, hbody, hengine⟩ := htransactional m hm
      exact ⟨body, changes, hbody, hengine, scripts m hm body hbody⟩
    refine ⟨fun hprefix n => ?_, fun applied pending hsplit h attempts => ?_,
      fun applied pending final hsplit h hall => ?_, scripts⟩
    · by_cases hunknown : LedgerUnknown migrations store.ledger
      · rw [applyMigrations_unknown hunknown]
        exact ⟨rfl, rfl, _, rfl⟩
      · rw [applyMigrations_of_not_unknown hunknown,
          (prefix_or_drift hunknown (hledger.resolve_left hunknown)).resolve_left hprefix n]
        exact ⟨rfl, rfl, _, rfl⟩
    · obtain ⟨done, rest, rfl, hall, hafter⟩ := afterAttempts_spec hscripts hnodup attempts hsplit h
      refine ⟨done, rest, rfl, hall, fun n => ?_⟩
      have hrest : GivenScripts engine rest := fun m hm => hscripts m (by simp [hsplit, hm])
      obtain ⟨more, left, attempt, rfl, happly, hmore, hstarted, hend⟩ :=
        applyPending_pending hrest hafter.missing n (afterAttempts engine migrations store attempts)
      have hrun : applyMigrations engine migrations n (afterAttempts engine migrations store attempts) = attempt :=
        (applyMigrations_known (hsplit.trans (List.append_assoc ..).symm) hafter n).trans happly
      refine ⟨attempt, hrun, hstarted, fun hresult => ?_⟩
      obtain rfl := hend hresult
      simpa using hall.append hmore
    · have hpending : GivenScripts engine pending := fun m hm => hscripts m (hsplit ▸ List.mem_append_right _ hm)
      have hdistinct : (pending.map (·.migrationId)).Nodup := by
        rw [hsplit, List.map_append] at hnodup
        exact (List.nodup_append.1 hnodup).2.1
      obtain ⟨enough, henough⟩ := applyPending_enough hpending hdistinct h.missing h.missing hall
      refine ⟨enough, fun n hn => ?_⟩
      rw [applyMigrations_known hsplit h]
      exact henough n hn

/-! ### a chain, a gap and a quoted name -/

/-- The statements of a script without semicolons in quotes. -/
def sampleStatements (script : Text) : List Text :=
  ((script.splitOn ';').map fun t => Text.rstrip (t.dropWhile Text.isSpace)).filter (· ≠ [])

/-- An engine that adds the text of every statement to the schema. -/
def sampleEngine (script : Text) : List (SqlStatement (List Text)) :=
  (sampleStatements script).map fun statement =>
    if statement = "BEGIN".toList then .begin else .change fun schema => some (schema ++ [statement])

def sampleMigrations : List Migration :=
  [⟨"001", "BEGIN;\nCREATE TABLE a(x); -- the first\nCOMMIT;\n".toList, "c1"⟩,
    ⟨"002", "BEGIN;\nCREATE TABLE b(x);\nCOMMIT;\n".toList, "c2"⟩]

def quotedMigration : Migration := ⟨"001", "BEGIN;\nCREATE TABLE a(\"x--y\");\nCOMMIT;\n".toList, "c1"⟩

theorem transactional_sampleMigrations : ∀ m ∈ sampleMigrations, m.Transactional sampleEngine := by
  have begins {body : Text} (statement : Text)
      (h : sampleStatements (removeLineComments .code body) = ["BEGIN".toList, statement])
      (hstatement : statement ≠ "BEGIN".toList) : sampleEngine (removeLineComments .code body) =
        .begin :: [fun schema => some (schema ++ [statement])].map .change := by
    rw [sampleEngine, h, List.map_cons, List.map_cons, if_pos rfl, if_neg hstatement]
    rfl
  refine List.forall_mem_cons.2 ⟨⟨"BEGIN;\nCREATE TABLE a(x); -- the first\n".toList, _, by decide +kernel,
    begins "CREATE TABLE a(x)".toList (by decide +kernel) (by decide)⟩, List.forall_mem_singleton.2
      ⟨"BEGIN;\nCREATE TABLE b(x);\n".toList, _, by decide +kernel,
        begins "CREATE TABLE b(x)".toList (by decide +kernel) (by decide)⟩⟩

/-- A database without migrations takes the chain. -/
theorem migrationChain_iff_sample : MigrationChain sampleEngine sampleMigrations ⟨[], []⟩ := by
  refine (migrationChain_iff sampleEngine sampleMigrations ⟨[], []⟩ (by decide) transactional_sampleMigrations).2
    ⟨.inr ?_, ?_⟩
  · rintro ⟨before, m, after, -, -, -, later, -, hsome⟩
    cases hsome
  · refine List.forall_mem_cons.2 ⟨fun body hbody => ?_, List.forall_mem_singleton.2 fun body hbody => ?_⟩
    · have hagree : ((Migration.body? ⟨"001", "BEGIN;\nCREATE TABLE a(x); -- the first\nCOMMIT;\n".toList,
          "c1"⟩).all (dashesAgree false .code)) = true := by decide +kernel
      rwa [hbody] at hagree
    · have hagree : ((Migration.body? ⟨"002", "BEGIN;\nCREATE TABLE b(x);\nCOMMIT;\n".toList, "c2"⟩).all
          (dashesAgree false .code)) = true := by decide +kernel
      rwa [hbody] at hagree

/-- A ledger that has the second migration and not the first is not refused, and a name in quotes loses what follows
its dashes. -/
theorem migrationChain_gap_quotes : ¬ MigrationChain sampleEngine sampleMigrations ⟨[], [("002", "c2")]⟩ ∧
    ¬ MigrationChain sampleEngine [quotedMigration] ⟨[], []⟩ := by
  constructor
  · intro h
    have hgap : LedgerGap sampleMigrations [("002", "c2")] :=
      ⟨[], _, _, rfl, List.forall_mem_nil _, by decide, _, List.mem_singleton_self _, by decide⟩
    have hstarted := (h.refuses (fun hprefix => hprefix.not_gap (by decide) hgap) 9).1
    have hrun : (applyMigrations sampleEngine sampleMigrations 9 ⟨[], [("002", "c2")]⟩).started = ["001"] := by
      decide +kernel
    rw [hrun] at hstarted
    cases hstarted
  · intro h
    have hscript := h.scripts quotedMigration (List.mem_singleton_self _) "BEGIN;\nCREATE TABLE a(\"x--y\");\n".toList
      (by decide +kernel)
    revert hscript
    decide +kernel

end KnowledgeBase
