import Blockwright.Palette.Tag
import Blockwright.Template

/-!
# Dialects

What a target language contributes to the text of a source file: a template for
each statement, the headers of its blocks, and the source of each utility.  The
tables themselves stand in one module for each language.
-/

namespace Blockwright

/-- The headers of a language's blocks. -/
structure Headers where
  counting : Template
  forEach : Template
  whileLoop : Template
  doOpening : Text
  doClosing : Template
  conditional : Template
  firstCondition : Template
  secondCondition : Template
  otherwise : Text
  switch : Template
  case : Template

end Blockwright
