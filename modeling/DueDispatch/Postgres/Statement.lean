import DueDispatch.Policy
import DueDispatch.Postgres.Table

/-!
# DueDispatch — the statements sent to Postgres

`Statement` lists everything that is ever asked of the server, `Statement.sql`
is its text and `Statement.Rows` what it brings back.

A claim is one update. The inner select picks the due rows, the longest
unchecked first, up to a limit; the update moves their claim time forward. A
missing time counts as 0. The cut-offs, the limit and the claim time are
parameters and never part of the text.
-/

namespace DueDispatch.Postgres

/-- The parameters of a claim. -/
structure ClaimParams where
  readyCutoff : Timestamp
  expiredCutoff : Timestamp
  limit : Int64
  now : Timestamp
deriving DecidableEq

/-- The largest limit that a statement can carry. -/
def maxLimit : Nat := 0x7fffffffffffffff

/-- The parameters of a claim under a policy. -/
def ClaimParams.of (now : Timestamp) (p : Policy) : ClaimParams where
  readyCutoff := p.readyCutoff now
  expiredCutoff := p.expiredCutoff now
  limit := Int64.ofNat (min p.cap maxLimit)
  now

/-- Something that is asked of the server. -/
inductive Statement
  /-- A trivial query that shows the server to be alive. -/
  | probe
  | begin
  | claim (table : Table) (params : ClaimParams)
  | commit
  | rollback
  | count (table : Table)

namespace Statement

/-- What a statement brings back: the claimed ids with their check times, the
numbers of a count, or nothing. -/
abbrev Rows : Statement → Type
  | claim .. => List (AccountId × Timestamp)
  | count _ => List Int64
  | _ => Unit

/-- The text of a claim. -/
def claimSql (table : String) : String :=
  "UPDATE " ++ table ++ " AS a " ++
  "SET last_enqueued_at = GREATEST(COALESCE(a.last_enqueued_at, 0), $4::float8) " ++
  "FROM ( SELECT id, COALESCE(last_checked_at, 0)::float8 AS checked " ++
  "FROM " ++ table ++ " " ++
  "WHERE COALESCE(last_enqueued_at, 0) <= $1::float8 " ++
  "OR COALESCE(last_checked_at, 0) < $2::float8 " ++
  "ORDER BY COALESCE(last_checked_at, 0) ASC, id ASC LIMIT $3 ) AS due " ++
  "WHERE a.id = due.id RETURNING a.id, due.checked"

/-- The text of a count. -/
def countSql (table : String) : String := "SELECT count(*) FROM " ++ table

/-- The text of a statement. -/
def sql : Statement → String
  | probe => "SELECT 1"
  | begin => "BEGIN"
  | claim table _ => claimSql table.name
  | commit => "COMMIT"
  | rollback => "ROLLBACK"
  | count table => countSql table.name

/-- The parameters of a statement. -/
def params? : Statement → Option ClaimParams
  | claim _ params => some params
  | _ => none

end Statement

end DueDispatch.Postgres
