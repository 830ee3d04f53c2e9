import DbtXdbc.Backend
import DbtXdbc.Sql.Tokenizer
import DbtXdbc.Sql.Integer
import DbtXdbc.Sql.Ident
import DbtXdbc.Sql.Types
import DbtXdbc.Sql.Parser
import DbtXdbc.Sql.Terminates
import DbtXdbc.Sql.Asserts
import DbtXdbc.Sql.Grammar
import DbtXdbc.Sql.Accepts
import DbtXdbc.Sql.CaseFold
import DbtXdbc.Sql.CaseInsensitive
import DbtXdbc.Sql.Lexes
import DbtXdbc.Sql.Canon
import DbtXdbc.Sql.Reparse
import DbtXdbc.Sql.Stable
import DbtXdbc.Sql.Arrow
import DbtXdbc.Sql.Backends
import DbtXdbc.Semaphore.Model
import DbtXdbc.Semaphore.Permits
import DbtXdbc.Semaphore.Progress
import DbtXdbc.QueryCtx
