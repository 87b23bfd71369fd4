import CfgPatch.Cfg.Reader
import CfgPatch.Cfg.Writer

/-!
# Formatting a cfg source

A source is formatted by reading it and writing its nodes again. Fields that stand in no
node have no place in the written form and are left out.
-/

namespace CfgPatch.Cfg

/-- The source written anew with the given indentation. -/
def format (indent source : Text) : Except Error Text :=
  (parse source).map fun document => write indent document.children

end CfgPatch.Cfg
