/-
This file converts link weights between the stored fraction and the percent that forms show.
-/

import MeshConsole.Decimal.Layout
import MeshConsole.Decimal.Whole

namespace MeshConsole

/-- The percent that tables and forms show: rounded, a half away from zero. -/
def percentOfWeight (weight : Float) : Float :=
  Decimal.round (weight * 100.0)

/-- The stored fraction of a typed percent, kept between zero and one. -/
def weightOfPercent (percent : Float) : Float :=
  let fraction := percent / 100.0
  if fraction < 0.0 then 0.0 else if 1.0 < fraction then 1.0 else fraction

/-- The weight cell of a table. -/
def percentText (weight : Float) : String :=
  Decimal.plain (percentOfWeight weight) ++ "%"

end MeshConsole
