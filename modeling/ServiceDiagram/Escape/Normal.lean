import ServiceDiagram.Escape.Entity
import ServiceDiagram.Escape.Percent

/-!
# Text without escapes

`normalize` undoes the percent escapes first and the entities in what comes out of that.
-/

namespace ServiceDiagram.Escape

def normalize (s : String) : String := unescapeEntities (unescapePercent s)

end ServiceDiagram.Escape
