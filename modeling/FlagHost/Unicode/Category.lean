import FlagHost.Unicode.Table

/-!
# General categories

Every code point has one general category, written with two letters of which the first names a
group. The table gives the categories as runs from below.
-/

namespace FlagHost.Unicode

def categoryRuns : List (Nat × String) := runsOf "
  0:cc 20:zs 1:po 3:sc 1:po 3:ps 1:pe 1:po 1:sm 1:po 1:pd 1:po 2:nd a:po 2:sm 3:po 2:lu 1a:ps 1:po
  1:pe 1:sk 1:pc 1:sk 1:ll 1a:ps 1:sm 1:pe 1:sm 1:cc 21:zs 1:po 1:sc 4:so 1:po 1:sk 1:so 1:lo 1:pi
  1:sm 1:cf 1:so 1:sk 1:so 1:sm 1:no 2:sk 1:ll 1:po 2:sk 1:no 1:lo 1:pf 1:no 3:po 1:lu 17:sm 1:lu
  7:ll 18:sm 1:ll 8:lu 1:ll 1:lu 1:ll 1:lu 1:ll 1:lu 1:ll 1:lu 1:ll 1:lu 1:ll 1:lu 1:ll 1:lu 1:ll
  1:lu 1:ll 1:lu 1:ll 1:lu 1:ll 1:lu 1:ll 1:lu 1:ll 1:lu 1:ll 1:lu 1:ll 1:lu 1:ll 1:lu 1:ll 1:lu
  1:ll 1:lu 1:ll 1:lu 1:ll 1:lu 1:ll 1:lu 1:ll 1:lu 1:ll 1:lu 1:ll 1:lu 1:ll 1:lu 1:ll 1:lu 1:ll
  1:lu 1:ll 2:lu 1:ll 1:lu 1:ll 1:lu 1:ll 1:lu 1:ll 1:lu 1:ll 1:lu 1:ll 1:lu 1:ll 1:lu 1:ll 2:lu
  1:ll 1:lu 1:ll 1:lu 1:ll 1:lu 1:ll 1:lu 1:ll 1:lu 1:ll 1:lu 1:ll 1:lu 1:ll 1:lu 1:ll 1:lu 1:ll
  1:lu 1:ll 1:lu 1:ll 1:lu 1:ll 1:lu 1:ll 1:lu 1:ll 1:lu 1:ll 1:lu 1:ll 1:lu 1:ll 1:lu 1:ll 1:lu
  1:ll 1:lu 1:ll 1:lu 1:ll 1:lu 1:ll 1:lu 2:ll 1:lu 1:ll 1:lu 1:ll 3:lu 2:ll 1:lu 1:ll 1:lu 2:ll
  1:lu 3:ll 2:lu 4:ll 1:lu 2:ll 1:lu 3:ll 3:lu 2:ll 1:lu 2:ll 1:lu 1:ll 1:lu 1:ll 1:lu 2:ll 1:lu
  1:ll 2:lu 1:ll 1:lu 2:ll 1:lu 3:ll 1:lu 1:ll 1:lu 2:ll 2:lo 1:lu 1:ll 3:lo 4:lu 1:lt 1:ll 1:lu
  1:lt 1:ll 1:lu 1:lt 1:ll 1:lu 1:ll 1:lu 1:ll 1:lu 1:ll 1:lu 1:ll 1:lu 1:ll 1:lu 1:ll 1:lu 1:ll
  1:lu 1:ll 2:lu 1:ll 1:lu 1:ll 1:lu 1:ll 1:lu 1:ll 1:lu 1:ll 1:lu 1:ll 1:lu 1:ll 1:lu 1:ll 1:lu
  1:ll 2:lu 1:lt 1:ll 1:lu 1:ll 1:lu 3:ll 1:lu 1:ll 1:lu 1:ll 1:lu 1:ll 1:lu 1:ll 1:lu 1:ll 1:lu
  1:ll 1:lu 1:ll 1:lu 1:ll 1:lu 1:ll 1:lu 1:ll 1:lu 1:ll 1:lu 1:ll 1:lu 1:ll 1:lu 1:ll 1:lu 1:ll
  1:lu 1:ll 1:lu 1:ll 1:lu 1:ll 1:lu 1:ll 1:lu 1:ll 1:lu 1:ll 1:lu 1:ll 1:lu 1:ll 1:lu 1:ll 1:lu
  1:ll 1:lu 1:ll 1:lu 1:ll 1:lu 1:ll 1:lu 1:ll 7:lu 2:ll 1:lu 2:ll 2:lu 1:ll 1:lu 4:ll 1:lu 1:ll
  1:lu 1:ll 1:lu 1:ll 1:lu 1:ll 45:lo 1:ll 1b:lm 12:sk 4:lm c:sk e:lm 5:sk 7:lm 1:sk 1:lm 1:sk
  11:mn 70:lu 1:ll 1:lu 1:ll 1:lm 1:sk 1:lu 1:ll 1:cn 2:lm 1:ll 3:po 1:lu 1:cn 4:sk 2:lu 1:po 1:lu
  3:cn 1:lu 1:cn 1:lu 2:ll 1:lu 11:cn 1:lu 9:ll 23:lu 1:ll 2:lu 3:ll 3:lu 1:ll 1:lu 1:ll 1:lu 1:ll
  1:lu 1:ll 1:lu 1:ll 1:lu 1:ll 1:lu 1:ll 1:lu 1:ll 1:lu 1:ll 1:lu 1:ll 1:lu 1:ll 1:lu 1:ll 5:lu
  1:ll 1:sm 1:lu 1:ll 1:lu 2:ll 2:lu 33:ll 30:lu 1:ll 1:lu 1:ll 1:lu 1:ll 1:lu 1:ll 1:lu 1:ll 1:lu
  1:ll 1:lu 1:ll 1:lu 1:ll 1:lu 1:ll 1:lu 1:ll 1:lu 1:ll 1:lu 1:ll 1:lu 1:ll 1:lu 1:ll 1:lu 1:ll
  1:lu 1:ll 1:lu 1:ll 1:so 1:mn 5:me 2:lu 1:ll 1:lu 1:ll 1:lu 1:ll 1:lu 1:ll 1:lu 1:ll 1:lu 1:ll
  1:lu 1:ll 1:lu 1:ll 1:lu 1:ll 1:lu 1:ll 1:lu 1:ll 1:lu 1:ll 1:lu 1:ll 1:lu 1:ll 1:lu 1:ll 1:lu
  1:ll 1:lu 1:ll 1:lu 1:ll 1:lu 1:ll 1:lu 1:ll 1:lu 1:ll 1:lu 1:ll 1:lu 1:ll 1:lu 1:ll 1:lu 1:ll
  1:lu 1:ll 1:lu 1:ll 1:lu 2:ll 1:lu 1:ll 1:lu 1:ll 1:lu 1:ll 1:lu 1:ll 1:lu 1:ll 1:lu 1:ll 2:lu
  1:ll 1:lu 1:ll 1:lu 1:ll 1:lu 1:ll 1:lu 1:ll 1:lu 1:ll 1:lu 1:ll 1:lu 1:ll 1:lu 1:ll 1:lu 1:ll
  1:lu 1:ll 1:lu 1:ll 1:lu 1:ll 1:lu 1:ll 1:lu 1:ll 1:lu 1:ll 1:lu 1:ll 1:lu 1:ll 1:lu 1:ll 1:lu
  1:ll 1:lu 1:ll 1:lu 1:ll 1:lu 1:ll 1:lu 1:ll 1:lu 1:ll 1:lu 1:ll 1:lu 1:ll 1:lu 1:ll 1:lu 1:ll
  1:lu 1:ll 1:lu 1:ll 1:lu 1:ll 1:lu 1:ll 1:lu 1:ll 1:lu 1:ll 1:lu 1:ll 1:lu 1:ll 1:lu 1:ll 1:lu
  1:ll 1:lu 1:ll 1:lu 1:ll 1:lu 1:ll 1:lu 1:ll 1:lu 1:ll 1:lu 1:ll 1:lu 1:ll 1:lu 1:ll 1:lu 1:ll
  1:cn 1:lu 26:cn 2:lm 1:po 6:ll 29:po 1:pd 1:cn 2:so 2:sc 1:cn 1:mn 2d:pd 1:mn 1:po 1:mn 2:po
  1:mn 2:po 1:mn 1:cn 8:lo 1b:cn 4:lo 4:po 2:cn b:cf 6:sm 3:po 2:sc 1:po 2:so 2:mn b:po 1:cf 1:po
  3:lo 20:lm 1:lo a:mn 15:nd a:po 4:lo 2:mn 1:lo 63:po 1:lo 1:mn 7:cf 1:so 1:mn 6:lm 2:mn 2:so
  1:mn 4:lo 2:nd a:lo 3:so 2:lo 1:po e:cn 1:cf 1:lo 1:mn 1:lo 1e:mn 1b:cn 2:lo 59:mn b:lo 1:cn
  e:nd a:lo 21:mn 9:lm 2:so 1:po 3:lm 1:cn 2:mn 1:sc 2:lo 16:mn 4:lm 1:mn 9:lm 1:mn 3:lm 1:mn 5:cn
  2:po f:cn 1:lo 19:mn 3:cn 2:po 1:cn 1:lo b:cn 5:lo 18:sk 1:lo 6:cn 1:cf 2:cn 6:mn 8:lo 29:lm
  1:mn 18:cf 1:mn 20:mc 1:lo 36:mn 1:mc 1:mn 1:lo 1:mc 3:mn 8:mc 4:mn 1:mc 2:lo 1:mn 7:lo a:mn
  2:po 2:nd a:po 1:lm 1:lo f:mn 1:mc 2:cn 1:lo 8:cn 2:lo 2:cn 2:lo 16:cn 1:lo 7:cn 1:lo 1:cn 3:lo
  4:cn 2:mn 1:lo 1:mc 3:mn 4:cn 2:mc 2:cn 2:mc 2:mn 1:lo 1:cn 8:mc 1:cn 4:lo 2:cn 1:lo 3:mn 2:cn
  2:nd a:lo 2:sc 2:no 6:so 1:sc 1:lo 1:po 1:mn 1:cn 2:mn 2:mc 1:cn 1:lo 6:cn 4:lo 2:cn 2:lo 16:cn
  1:lo 7:cn 1:lo 2:cn 1:lo 2:cn 1:lo 2:cn 2:mn 1:cn 1:mc 3:mn 2:cn 4:mn 2:cn 2:mn 3:cn 3:mn 1:cn
  7:lo 4:cn 1:lo 1:cn 7:nd a:mn 2:lo 3:mn 1:po 1:cn a:mn 2:mc 1:cn 1:lo 9:cn 1:lo 3:cn 1:lo 16:cn
  1:lo 7:cn 1:lo 2:cn 1:lo 5:cn 2:mn 1:lo 1:mc 3:mn 5:cn 1:mn 2:mc 1:cn 1:mc 2:mn 1:cn 2:lo 1:cn
  f:lo 2:mn 2:cn 2:nd a:po 1:sc 1:cn 7:lo 1:mn 6:cn 1:mn 1:mc 2:cn 1:lo 8:cn 2:lo 2:cn 2:lo 16:cn
  1:lo 7:cn 1:lo 2:cn 1:lo 5:cn 2:mn 1:lo 1:mc 1:mn 1:mc 1:mn 4:cn 2:mc 2:cn 2:mc 2:mn 1:cn 7:mn
  2:mc 1:cn 4:lo 2:cn 1:lo 3:mn 2:cn 2:nd a:so 1:lo 1:no 6:cn a:mn 1:lo 1:cn 1:lo 6:cn 3:lo 3:cn
  1:lo 4:cn 3:lo 2:cn 1:lo 1:cn 1:lo 2:cn 3:lo 2:cn 3:lo 3:cn 3:lo c:cn 4:mc 2:mn 1:mc 2:cn 3:mc
  3:cn 1:mc 3:mn 1:cn 2:lo 1:cn 6:mc 1:cn e:nd a:no 3:so 6:sc 1:so 1:cn 5:mn 1:mc 3:mn 1:lo 8:cn
  1:lo 3:cn 1:lo 17:cn 1:lo 10:cn 2:mn 1:lo 1:mn 3:mc 4:cn 1:mn 3:cn 1:mn 4:cn 7:mn 2:cn 1:lo 3:cn
  2:lo 1:cn 2:lo 2:mn 2:cn 2:nd a:cn 7:po 1:no 7:so 1:lo 1:mn 1:mc 2:po 1:lo 8:cn 1:lo 3:cn 1:lo
  17:cn 1:lo a:cn 1:lo 5:cn 2:mn 1:lo 1:mc 1:mn 1:mc 5:cn 1:mn 1:mc 2:cn 1:mc 2:mn 2:cn 7:mc 2:cn
  6:lo 2:cn 1:lo 2:mn 2:cn 2:nd a:cn 1:lo 2:mc 1:cn c:mn 2:mc 2:lo 9:cn 1:lo 3:cn 1:lo 29:mn 2:lo
  1:mc 3:mn 4:cn 1:mc 3:cn 1:mc 3:mn 1:lo 1:so 1:cn 4:lo 3:mc 1:no 7:lo 3:mn 2:cn 2:nd a:no 9:so
  1:lo 6:cn 1:mn 1:mc 2:cn 1:lo 12:cn 3:lo 18:cn 1:lo 9:cn 1:lo 1:cn 2:lo 7:cn 3:mn 1:cn 4:mc 3:mn
  3:cn 1:mn 1:cn 1:mc 8:cn 6:nd a:cn 2:mc 2:po 1:cn c:lo 30:mn 1:lo 2:mn 7:cn 4:sc 1:lo 6:lm 1:mn
  8:po 1:nd a:po 2:cn 25:lo 2:cn 1:lo 1:cn 1:lo 5:cn 1:lo 18:cn 1:lo 1:cn 1:lo a:mn 1:lo 2:mn 9:lo
  1:cn 2:lo 5:cn 1:lm 1:cn 1:mn 7:cn 1:nd a:cn 2:lo 4:cn 20:lo 1:so 3:po f:so 1:po 1:so 3:mn 2:so
  6:nd a:no a:so 1:mn 1:so 1:mn 1:so 1:mn 1:ps 1:pe 1:ps 1:pe 1:mc 2:lo 8:cn 1:lo 24:cn 4:mn e:mc
  1:mn 5:po 1:mn 2:lo 5:mn b:cn 1:mn 24:cn 1:so 8:mn 1:so 6:cn 1:so 2:po 5:so 4:po 2:cn 25:lo
  2b:mc 2:mn 4:mc 1:mn 6:mc 1:mn 2:mc 2:mn 2:lo 1:nd a:po 6:lo 6:mc 2:mn 2:lo 4:mn 3:lo 1:mc 3:lo
  2:mc 7:lo 3:mn 4:lo d:mn 1:mc 2:mn 2:mc 6:mn 1:lo 1:mc 1:nd a:mc 3:mn 1:so 2:lu 26:cn 1:lu 1:cn
  5:lu 1:cn 2:ll 2b:po 1:lm 1:ll 3:lo 149:cn 1:lo 4:cn 2:lo 7:cn 1:lo 1:cn 1:lo 4:cn 2:lo 29:cn
  1:lo 4:cn 2:lo 21:cn 1:lo 4:cn 2:lo 7:cn 1:lo 1:cn 1:lo 4:cn 2:lo f:cn 1:lo 39:cn 1:lo 4:cn 2:lo
  43:cn 2:mn 3:po 9:no 14:cn 3:lo 10:so a:cn 6:lu 56:cn 2:ll 6:cn 2:pd 1:lo 26c:so 1:po 1:lo 11:zs
  1:lo 1a:ps 1:pe 1:cn 3:lo 4b:po 3:nl 3:lo 8:cn 7:lo 12:mn 3:mc 1:cn 9:lo 13:mn 2:mc 1:po 2:cn
  9:lo 12:mn 2:cn c:lo d:cn 1:lo 3:cn 1:mn 2:cn c:lo 34:mn 2:mc 1:mn 7:mc 8:mn 1:mc 2:mn b:po 3:lm
  1:po 3:sc 1:lo 1:mn 1:cn 2:nd a:cn 6:no a:cn 6:po 6:pd 1:po 4:mn 3:cf 1:mn 1:nd a:cn 6:lo 23:lm
  1:lo 35:cn 7:lo 5:mn 2:lo 22:mn 1:lo 1:cn 5:lo 46:cn a:lo 1f:cn 1:mn 3:mc 4:mn 2:mc 3:cn 4:mc
  2:mn 1:mc 6:mn 3:cn 4:so 1:cn 3:po 2:nd a:lo 1e:cn 2:lo 5:cn b:lo 2c:cn 4:lo 1a:cn 6:nd a:no
  1:cn 3:so 22:lo 17:mn 2:mc 2:mn 1:cn 2:po 2:lo 35:mc 1:mn 1:mc 1:mn 7:cn 1:mn 1:mc 1:mn 1:mc
  2:mn 8:mc 6:mn a:cn 2:mn 1:nd a:cn 6:nd a:cn 6:po 7:lm 1:po 6:cn 2:mn e:me 1:mn 10:cn 31:mn 4:mc
  1:lo 2f:mn 1:mc 1:mn 5:mc 1:mn 1:mc 5:mn 1:mc 2:lo 8:cn 3:nd a:po 7:so a:mn 9:so 9:po 2:cn 1:mn
  2:mc 1:lo 1e:mc 1:mn 4:mc 2:mn 2:mc 1:mn 3:lo 2:nd a:lo 2c:mn 1:mc 1:mn 2:mc 3:mn 1:mc 1:mn 3:mc
  2:cn 8:po 4:lo 24:mc 8:mn 8:mc 2:mn 2:cn 3:po 5:nd a:cn 3:lo 3:nd a:lo 1e:lm 6:po 2:ll 9:cn 7:lu
  2b:cn 2:lu 3:po 8:cn 8:mn 3:po 1:mn d:mc 1:mn 7:lo 4:mn 1:lo 6:mn 1:lo 2:mc 1:mn 2:lo 1:cn 5:ll
  2c:lm 3f:ll d:lm 1:ll 22:lm 25:mn 40:lu 1:ll 1:lu 1:ll 1:lu 1:ll 1:lu 1:ll 1:lu 1:ll 1:lu 1:ll
  1:lu 1:ll 1:lu 1:ll 1:lu 1:ll 1:lu 1:ll 1:lu 1:ll 1:lu 1:ll 1:lu 1:ll 1:lu 1:ll 1:lu 1:ll 1:lu
  1:ll 1:lu 1:ll 1:lu 1:ll 1:lu 1:ll 1:lu 1:ll 1:lu 1:ll 1:lu 1:ll 1:lu 1:ll 1:lu 1:ll 1:lu 1:ll
  1:lu 1:ll 1:lu 1:ll 1:lu 1:ll 1:lu 1:ll 1:lu 1:ll 1:lu 1:ll 1:lu 1:ll 1:lu 1:ll 1:lu 1:ll 1:lu
  1:ll 1:lu 1:ll 1:lu 1:ll 1:lu 1:ll 1:lu 1:ll 1:lu 1:ll 1:lu 1:ll 1:lu 1:ll 1:lu 1:ll 1:lu 1:ll
  1:lu 1:ll 1:lu 1:ll 1:lu 1:ll 1:lu 1:ll 1:lu 1:ll 1:lu 1:ll 1:lu 1:ll 1:lu 1:ll 1:lu 1:ll 1:lu
  1:ll 1:lu 1:ll 1:lu 1:ll 1:lu 1:ll 1:lu 1:ll 1:lu 1:ll 1:lu 1:ll 1:lu 1:ll 1:lu 1:ll 1:lu 1:ll
  1:lu 1:ll 1:lu 1:ll 1:lu 1:ll 1:lu 1:ll 1:lu 1:ll 1:lu 1:ll 1:lu 1:ll 1:lu 1:ll 1:lu 1:ll 1:lu
  1:ll 1:lu 1:ll 1:lu 1:ll 9:lu 1:ll 1:lu 1:ll 1:lu 1:ll 1:lu 1:ll 1:lu 1:ll 1:lu 1:ll 1:lu 1:ll
  1:lu 1:ll 1:lu 1:ll 1:lu 1:ll 1:lu 1:ll 1:lu 1:ll 1:lu 1:ll 1:lu 1:ll 1:lu 1:ll 1:lu 1:ll 1:lu
  1:ll 1:lu 1:ll 1:lu 1:ll 1:lu 1:ll 1:lu 1:ll 1:lu 1:ll 1:lu 1:ll 1:lu 1:ll 1:lu 1:ll 1:lu 1:ll
  1:lu 1:ll 1:lu 1:ll 1:lu 1:ll 1:lu 1:ll 1:lu 1:ll 1:lu 1:ll 1:lu 1:ll 1:lu 1:ll 1:lu 1:ll 1:lu
  1:ll 1:lu 1:ll 1:lu 1:ll 1:lu 1:ll 1:lu 1:ll 1:lu 1:ll 1:lu 1:ll 1:lu 1:ll 1:lu 1:ll 1:lu 1:ll
  1:lu 1:ll 1:lu 1:ll 1:lu 1:ll 1:lu 1:ll 9:lu 8:ll 6:cn 2:lu 6:cn 2:ll 8:lu 8:ll 8:lu 8:ll 6:cn
  2:lu 6:cn 2:ll 8:cn 1:lu 1:cn 1:lu 1:cn 1:lu 1:cn 1:lu 1:ll 8:lu 8:ll e:cn 2:ll 8:lt 8:ll 8:lt
  8:ll 8:lt 8:ll 5:cn 1:ll 2:lu 4:lt 1:sk 1:ll 1:sk 3:ll 3:cn 1:ll 2:lu 4:lt 1:sk 3:ll 4:cn 2:ll
  2:lu 4:cn 1:sk 3:ll 8:lu 5:sk 3:cn 2:ll 3:cn 1:ll 2:lu 4:lt 1:sk 2:cn 1:zs b:cf 5:pd 6:po 2:pi
  1:pf 1:ps 1:pi 2:pf 1:ps 1:pi 1:po 8:zl 1:zp 1:cf 5:zs 1:po 9:pi 1:pf 1:po 4:pc 2:po 3:sm 1:ps
  1:pe 1:po b:sm 1:po 1:pc 1:po a:zs 1:cf 5:cn 1:cf a:no 1:lm 1:cn 2:no 6:sm 3:ps 1:pe 1:lm 1:no
  a:sm 3:ps 1:pe 1:cn 1:lm d:cn 3:sc 21:cn f:mn d:me 4:mn 1:me 3:mn c:cn f:so 2:lu 1:so 4:lu 1:so
  2:ll 1:lu 3:ll 2:lu 3:ll 1:so 1:lu 1:so 2:sm 1:lu 5:so 6:lu 1:so 1:lu 1:so 1:lu 1:so 1:lu 4:so
  1:ll 1:lu 4:ll 1:lo 4:ll 1:so 2:ll 2:lu 2:sm 5:lu 1:ll 4:so 1:sm 1:so 2:ll 1:so 1:no 10:nl 23:lu
  1:ll 1:nl 4:no 1:so 2:cn 4:sm 5:so 5:sm 2:so 4:sm 1:so 2:sm 1:so 2:sm 1:so 7:sm 1:so 1f:sm 2:so
  2:sm 1:so 1:sm 1:so 1f:sm 10c:so 8:ps 1:pe 1:ps 1:pe 1:so 14:sm 2:so 7:ps 1:pe 1:so 51:sm 1:so
  1e:sm 19:so 28:sm 6:so 45:cn 19:so b:cn 15:no 3c:so 4e:no 16:so b7:sm 1:so 9:sm 1:so 36:sm 8:so
  6f:sm 1:so f8:ps 1:pe 1:ps 1:pe 1:ps 1:pe 1:ps 1:pe 1:ps 1:pe 1:ps 1:pe 1:ps 1:pe 1:no 1e:so
  2c:sm 5:ps 1:pe 1:sm 1f:ps 1:pe 1:ps 1:pe 1:ps 1:pe 1:ps 1:pe 1:ps 1:pe 1:sm 10:so 100:sm 83:ps
  1:pe 1:ps 1:pe 1:ps 1:pe 1:ps 1:pe 1:ps 1:pe 1:ps 1:pe 1:ps 1:pe 1:ps 1:pe 1:ps 1:pe 1:ps 1:pe
  1:ps 1:pe 1:sm 3f:ps 1:pe 1:ps 1:pe 1:sm 20:ps 1:pe 1:sm 102:so 30:sm 15:so 2:sm 6:so 27:cn 2:so
  20:cn 1:so 69:lu 30:ll 30:lu 1:ll 1:lu 3:ll 2:lu 1:ll 1:lu 1:ll 1:lu 1:ll 1:lu 4:ll 1:lu 1:ll
  2:lu 1:ll 6:lm 2:lu 3:ll 1:lu 1:ll 1:lu 1:ll 1:lu 1:ll 1:lu 1:ll 1:lu 1:ll 1:lu 1:ll 1:lu 1:ll
  1:lu 1:ll 1:lu 1:ll 1:lu 1:ll 1:lu 1:ll 1:lu 1:ll 1:lu 1:ll 1:lu 1:ll 1:lu 1:ll 1:lu 1:ll 1:lu
  1:ll 1:lu 1:ll 1:lu 1:ll 1:lu 1:ll 1:lu 1:ll 1:lu 1:ll 1:lu 1:ll 1:lu 1:ll 1:lu 1:ll 1:lu 1:ll
  1:lu 1:ll 1:lu 1:ll 1:lu 1:ll 1:lu 1:ll 1:lu 1:ll 1:lu 1:ll 1:lu 1:ll 1:lu 1:ll 1:lu 1:ll 1:lu
  1:ll 1:lu 1:ll 1:lu 1:ll 1:lu 1:ll 1:lu 1:ll 1:lu 1:ll 1:lu 1:ll 1:lu 1:ll 1:lu 1:ll 1:lu 1:ll
  1:lu 1:ll 1:lu 1:ll 1:lu 1:ll 1:lu 1:ll 2:so 6:lu 1:ll 1:lu 1:ll 1:mn 3:lu 1:ll 1:cn 5:po 4:no
  1:po 2:ll 26:cn 1:ll 1:cn 5:ll 1:cn 2:lo 38:cn 7:lm 1:po 1:cn e:mn 1:lo 17:cn 9:lo 7:cn 1:lo
  7:cn 1:lo 7:cn 1:lo 7:cn 1:lo 7:cn 1:lo 7:cn 1:lo 7:cn 1:lo 7:cn 1:mn 20:po 2:pi 1:pf 1:pi 1:pf
  1:po 3:pi 1:pf 1:po 1:pi 1:pf 1:po 9:pd 1:po 2:pd 1:po 1:pi 1:pf 1:po 2:pi 1:pf 1:ps 1:pe 1:ps
  1:pe 1:ps 1:pe 1:ps 1:pe 1:po 5:lm 1:po a:pd 2:po 4:pd 1:po 1:ps 1:po d:so 2:po 3:ps 1:pe 1:ps
  1:pe 1:ps 1:pe 1:ps 1:pe 1:pd 1:cn 22:so 1a:cn 1:so 59:cn c:so d6:cn 1a:so c:cn 4:zs 1:po 3:so
  1:lm 1:lo 1:nl 1:ps 1:pe 1:ps 1:pe 1:ps 1:pe 1:ps 1:pe 1:ps 1:pe 1:so 2:ps 1:pe 1:ps 1:pe 1:ps
  1:pe 1:ps 1:pe 1:pd 1:ps 1:pe 2:so 1:nl 9:mn 4:mc 2:pd 1:lm 5:so 2:nl 3:lm 1:lo 1:po 1:so 2:cn
  1:lo 56:cn 2:mn 2:sk 2:lm 2:lo 1:pd 1:lo 5a:po 1:lm 3:lo 1:cn 5:lo 2b:cn 1:lo 5e:cn 1:so 2:no
  4:so a:lo 20:so 24:cn c:lo 10:so 1f:cn 1:no a:so 1e:no 8:so 1:no f:so 20:no a:so 27:no f:so
  140:lo 19c0:so 40:lo 5215:lm 1:lo 477:cn 3:so 37:cn 9:lo 28:lm 6:po 2:lo 10c:lm 1:po 3:lo 10:nd
  a:lo 2:cn 14:lu 1:ll 1:lu 1:ll 1:lu 1:ll 1:lu 1:ll 1:lu 1:ll 1:lu 1:ll 1:lu 1:ll 1:lu 1:ll 1:lu
  1:ll 1:lu 1:ll 1:lu 1:ll 1:lu 1:ll 1:lu 1:ll 1:lu 1:ll 1:lu 1:ll 1:lu 1:ll 1:lu 1:ll 1:lu 1:ll
  1:lu 1:ll 1:lu 1:ll 1:lu 1:ll 1:lu 1:ll 1:lu 1:ll 1:lo 1:mn 1:me 3:po 1:mn a:po 1:lm 1:lu 1:ll
  1:lu 1:ll 1:lu 1:ll 1:lu 1:ll 1:lu 1:ll 1:lu 1:ll 1:lu 1:ll 1:lu 1:ll 1:lu 1:ll 1:lu 1:ll 1:lu
  1:ll 1:lu 1:ll 1:lu 1:ll 1:lu 1:ll 1:lm 2:mn 2:lo 46:nl a:mn 2:po 6:cn 8:sk 17:lm 9:sk 2:lu 1:ll
  1:lu 1:ll 1:lu 1:ll 1:lu 1:ll 1:lu 1:ll 1:lu 1:ll 1:lu 1:ll 3:lu 1:ll 1:lu 1:ll 1:lu 1:ll 1:lu
  1:ll 1:lu 1:ll 1:lu 1:ll 1:lu 1:ll 1:lu 1:ll 1:lu 1:ll 1:lu 1:ll 1:lu 1:ll 1:lu 1:ll 1:lu 1:ll
  1:lu 1:ll 1:lu 1:ll 1:lu 1:ll 1:lu 1:ll 1:lu 1:ll 1:lu 1:ll 1:lu 1:ll 1:lu 1:ll 1:lu 1:ll 1:lu
  1:ll 1:lu 1:ll 1:lu 1:ll 1:lu 1:ll 1:lu 1:ll 1:lu 1:ll 1:lu 1:ll 1:lu 1:ll 1:lu 1:ll 1:lm 1:ll
  8:lu 1:ll 1:lu 1:ll 1:lu 2:ll 1:lu 1:ll 1:lu 1:ll 1:lu 1:ll 1:lu 1:ll 1:lm 1:sk 2:lu 1:ll 1:lu
  1:ll 1:lo 1:lu 1:ll 1:lu 1:ll 3:lu 1:ll 1:lu 1:ll 1:lu 1:ll 1:lu 1:ll 1:lu 1:ll 1:lu 1:ll 1:lu
  1:ll 1:lu 1:ll 1:lu 1:ll 1:lu 1:ll 1:lu 5:ll 1:lu 5:ll 1:lu 1:ll 1:lu 1:ll 1:lu 1:ll 1:lu 1:ll
  1:lu 1:ll 1:lu 1:ll 1:lu 1:ll 1:lu 4:ll 1:lu 1:ll 1:cn 5:lu 1:ll 1:cn 1:ll 1:cn 1:ll 1:lu 1:ll
  1:lu 1:ll 1:cn 18:lm 3:lu 1:ll 1:lo 1:lm 2:ll 1:lo 7:mn 1:lo 3:mn 1:lo 4:mn 1:lo 17:mc 2:mn 2:mc
  1:so 4:mn 1:cn 3:no 6:so 2:sc 1:so 1:cn 6:lo 34:po 4:cn 8:mc 2:lo 32:mc 10:mn 2:cn 8:po 2:nd
  a:cn 6:mn 12:lo 6:po 3:lo 1:po 1:lo 2:mn 1:nd a:lo 1c:mn 8:po 2:lo 17:mn b:mc 2:cn b:po 1:lo
  1d:cn 3:mn 3:mc 1:lo 2f:mn 1:mc 2:mn 4:mc 2:mn 2:mc 3:po d:cn 1:lm 1:nd a:cn 4:po 2:lo 5:mn 1:lm
  1:lo 9:nd a:lo 5:cn 1:lo 29:mn 6:mc 2:mn 2:mc 2:mn 2:cn 9:lo 3:mn 1:lo 8:mn 1:mc 1:cn 2:nd a:cn
  2:po 4:lo 10:lm 1:lo 6:so 3:lo 1:mc 1:mn 1:mc 1:lo 32:mn 1:lo 1:mn 3:lo 2:mn 2:lo 5:mn 2:lo 1:mn
  1:lo 1:cn 18:lo 2:lm 1:po 2:lo b:mc 1:mn 2:mc 2:po 2:lo 1:lm 2:mc 1:mn 1:cn a:lo 6:cn 2:lo 6:cn
  2:lo 6:cn 9:lo 7:cn 1:lo 7:cn 1:ll 2b:sk 1:lm 4:ll 9:lm 1:sk 2:cn 4:ll 50:lo 23:mc 2:mn 1:mc
  2:mn 1:mc 2:po 1:mc 1:mn 1:cn 2:nd a:cn 6:lo 2ba4:cn c:lo 17:cn 4:lo 31:cn 4:cs 800:co 1900:lo
  16e:cn 2:lo 6a:cn 26:ll 7:cn c:ll 5:cn 5:lo 1:mn 1:lo a:sm 1:lo d:cn 1:lo 5:cn 1:lo 1:cn 1:lo
  2:cn 1:lo 2:cn 1:lo 6c:sk 11:cn 10:lo 16b:pe 1:ps 1:so 10:lo 40:cn 2:lo 36:cn 7:so 1:cn 20:lo
  c:sc 1:so 3:mn 10:po 7:ps 1:pe 1:po 1:cn 6:mn 10:po 1:pd 2:pc 2:ps 1:pe 1:ps 1:pe 1:ps 1:pe 1:ps
  1:pe 1:ps 1:pe 1:ps 1:pe 1:ps 1:pe 1:ps 1:pe 1:po 2:ps 1:pe 1:po 4:pc 3:po 3:cn 1:po 4:pd 1:ps
  1:pe 1:ps 1:pe 1:ps 1:pe 1:po 3:sm 1:pd 1:sm 3:cn 1:po 1:sc 1:po 2:cn 4:lo 5:cn 1:lo 87:cn 2:cf
  1:cn 1:po 3:sc 1:po 3:ps 1:pe 1:po 1:sm 1:po 1:pd 1:po 2:nd a:po 2:sm 3:po 2:lu 1a:ps 1:po 1:pe
  1:sk 1:pc 1:sk 1:ll 1a:ps 1:sm 1:pe 1:sm 1:ps 1:pe 1:po 1:ps 1:pe 1:po 2:lo a:lm 1:lo 2d:lm 2:lo
  1f:cn 3:lo 6:cn 2:lo 6:cn 2:lo 6:cn 2:lo 3:cn 3:sc 2:sm 1:sk 1:so 1:sc 2:cn 1:so 1:sm 4:so 2:cn
  a:cf 3:so 2:cn 2:lo c:cn 1:lo 1a:cn 1:lo 13:cn 1:lo 2:cn 1:lo f:cn 2:lo e:cn 22:lo 7b:cn 5:po
  3:cn 4:no 2d:cn 3:so 9:nl 35:no 4:so 11:no 2:so 3:cn 1:so d:cn 3:so 1:cn 2f:so 2d:mn 1:cn 82:lo
  1d:cn 3:lo 31:cn f:mn 1:no 1b:cn 4:lo 20:no 4:cn 9:lo 14:nl 1:lo 8:nl 1:cn 5:lo 26:mn 5:cn 5:lo
  1e:cn 1:po 1:lo 24:cn 4:lo 8:po 1:nl 5:cn 2a:lu 28:ll 28:lo 4e:cn 2:nd a:cn 6:lu 24:cn 4:ll
  24:cn 4:lo 28:cn 8:lo 34:cn b:po 1:lu b:cn 1:lu f:cn 1:lu 7:cn 1:lu 2:cn 1:ll b:cn 1:ll f:cn
  1:ll 7:cn 1:ll 2:cn 43:lo 137:cn 9:lo 16:cn a:lo 8:cn 18:lm 6:cn 1:lm 2a:cn 1:lm 9:cn 45:lo 6:cn
  2:lo 1:cn 1:lo 2c:cn 1:lo 2:cn 3:lo 1:cn 2:lo 17:cn 1:po 1:no 8:lo 17:so 2:no 7:lo 1f:cn 8:no
  9:cn 30:lo 13:cn 1:lo 2:cn 5:no 5:lo 16:no 6:cn 3:po 1:lo 1a:cn 5:po 1:cn 40:lo 38:cn 4:no 2:lo
  2:no 10:cn 2:no 2e:lo 1:mn 3:cn 1:mn 2:cn 5:mn 4:lo 4:cn 1:lo 3:cn 1:lo 1d:cn 2:mn 3:cn 4:mn
  1:no 9:cn 7:po 9:cn 7:lo 1d:no 2:po 1:lo 1d:no 3:cn 20:lo 8:so 1:lo 1c:mn 2:cn 4:no 5:po 7:cn
  9:lo 36:cn 3:po 7:lo 16:cn 2:no 8:lo 13:cn 5:no 8:lo 12:cn 7:po 4:cn c:no 7:cn 50:lo 49:cn 37:lu
  33:cn d:ll 33:cn 7:no 6:lo 24:mn 4:cn 8:nd a:cn 126:no 1f:cn 1:lo 2a:cn 1:mn 2:pd 1:cn 2:lo 2:cn
  4b:mn 3:lo 1d:no a:lo 1:cn 8:lo 16:mn b:no 4:po 5:cn 16:lo 12:mn 4:po 4:cn 26:lo 15:no 7:cn
  14:lo 17:cn 9:mc 1:mn 1:mc 1:lo 35:mn f:po 7:cn 4:no 14:nd a:mn 1:lo 2:mn 2:lo 1:cn 9:mn 3:mc
  1:lo 2d:mc 3:mn 4:mc 2:mn 2:po 2:cf 1:po 4:mn 1:cn a:cf 1:cn 2:lo 19:cn 7:nd a:cn 6:mn 3:lo
  24:mn 5:mc 1:mn 8:cn 1:nd a:po 4:lo 1:mc 2:lo 1:cn 8:lo 23:mn 1:po 2:lo 1:cn 9:mn 2:mc 1:lo
  30:mc 3:mn 9:mc 2:lo 4:po 4:mn 4:po 1:mc 1:mn 1:nd a:lo 1:po 1:lo 1:po 3:cn 1:no 14:cn b:lo
  12:cn 1:lo 19:mc 3:mn 3:mc 2:mn 1:mc 1:mn 2:po 6:mn 1:lo 2:mn 1:cn 3e:lo 7:cn 1:lo 1:cn 1:lo
  4:cn 1:lo f:cn 1:lo a:po 1:cn 6:lo 2f:mn 1:mc 3:mn 8:cn 5:nd a:cn 6:mn 2:mc 2:cn 1:lo 8:cn 2:lo
  2:cn 2:lo 16:cn 1:lo 7:cn 1:lo 2:cn 1:lo 5:cn 1:mn 2:lo 1:mc 2:mn 1:mc 4:cn 2:mc 2:cn 2:mc 3:cn
  2:lo 1:cn 6:mc 1:cn 5:lo 5:mc 2:cn 2:mn 7:cn 3:mn 5:cn 8b:lo 35:mc 3:mn 8:mc 2:mn 3:mc 1:mn 1:lo
  4:po 5:nd a:po 2:cn 1:po 1:mn 1:lo 3:cn 1e:lo 30:mc 3:mn 6:mc 1:mn 1:mc 4:mn 2:mc 1:mn 2:lo 2:po
  1:lo 1:cn 8:nd a:cn a6:lo 2f:mc 3:mn 4:cn 2:mc 4:mn 2:mc 1:mn 2:po 17:lo 4:mn 2:cn 22:lo 30:mc
  3:mn 8:mc 2:mn 1:mc 1:mn 2:po 3:lo 1:cn b:nd a:cn 6:po d:cn 13:lo 2b:mn 1:mc 1:mn 1:mc 2:mn 6:mc
  1:mn 1:lo 1:po 1:cn 6:nd a:cn 36:lo 1b:cn 2:mn 3:mc 2:mn 4:mc 1:mn 5:cn 4:nd a:no 2:po 3:so 1:lo
  7:cn b9:lo 2c:mc 3:mn 9:mc 1:mn 2:po 1:cn 64:lu 20:ll 20:nd a:no 9:cn c:lo 8:cn 2:lo 1:cn 2:lo
  8:cn 1:lo 2:cn 1:lo 18:mc 6:cn 1:mc 2:cn 2:mn 2:mc 1:mn 1:lo 1:mc 1:lo 1:mc 1:mn 1:po 3:cn 9:nd
  a:cn 46:lo 8:cn 2:lo 27:mc 3:mn 4:cn 2:mn 2:mc 4:mn 1:lo 1:po 1:lo 1:mc 1:cn 1b:lo 1:mn a:lo
  28:mn 6:mc 1:lo 1:mn 4:po 8:mn 1:cn 8:lo 1:mn 6:mc 2:mn 3:lo 2e:mn d:mc 1:mn 2:po 3:lo 1:po 5:cn
  d:lo 49:cn 7:po a:cn f6:lo 9:cn 1:lo 25:mc 1:mn 7:cn 1:mn 6:mc 1:mn 1:lo 1:po 5:cn a:nd a:no
  13:cn 3:po 2:lo 1e:cn 2:mn 16:cn 1:mc 1:mn 7:mc 1:mn 2:mc 1:mn 2:cn 49:lo 7:cn 1:lo 2:cn 1:lo
  26:mn 6:cn 3:mn 1:cn 1:mn 2:cn 1:mn 7:lo 1:mn 1:cn 8:nd a:cn 6:lo 6:cn 1:lo 2:cn 1:lo 20:mc 5:cn
  1:mn 2:cn 1:mc 2:mn 1:mc 1:mn 1:lo 1:cn 7:nd a:cn 136:lo 13:mn 2:mc 2:po 2:cn 7:mn 2:lo 1:mc
  1:lo d:cn 1:lo 22:mc 2:mn 5:cn 3:mc 2:mn 1:mc 1:mn 1:po d:nd a:cn 56:lo 1:cn f:no 15:so 8:sc
  4:so 11:cn d:po 1:lo 39a:cn 66:nl 6f:cn 1:po 5:cn b:lo c4:cn a4c:lo 61:po 2:cn d:lo 430:cf 10:mn
  1:lo 6:mn f:cn faa:lo 247:cn 21b9:lo 239:cn 7:lo 1f:cn 1:nd a:cn 4:po 2:lo 4f:cn 1:nd a:cn 6:lo
  1e:cn 2:mn 5:po 1:cn a:lo 30:mn 7:po 5:so 4:lm 4:po 1:so 1:cn a:nd a:cn 1:no 7:cn 1:lo 15:cn
  5:lo 13:cn 2b0:lu 20:ll 20:no 17:po 4:cn 65:lo 4b:cn 4:mn 1:lo 1:mc 37:cn 7:mn 4:lm d:cn 40:lm
  2:po 1:lm 1:mn 1:cn b:mc 2:cn e:lo 17f8:cn 8:lo 4d6:cn 2a:lo 9:cn 22e7:lm 4:cn 1:lm 7:cn 1:lm
  2:cn 1:lo 123:cn f:lo 1:cn 1d:lo 3:cn 2:lo 1:cn e:lo 4:cn 8:lo 18c:cn 904:lo 6b:cn 5:lo d:cn
  3:lo 9:cn 7:lo a:cn 2:so 1:mn 2:po 1:cf 4:cn 125c:mn 2e:cn 2:mn 17:cn 9:so 74:cn 3c:so f6:cn
  a:so 27:cn 2:so 3c:mc 2:mn 3:so 3:mc 6:cf 8:mn 8:so 2:mn 7:so 1e:mn 4:so 3d:cn 15:so 42:mn 3:so
  1:cn 7a:no 14:cn c:no 14:cn c:so 57:cn 9:no 19:cn 87:lu 1a:ll 1a:lu 1a:ll 7:cn 1:ll 12:lu 1a:ll
  1a:lu 1:cn 1:lu 2:cn 2:lu 1:cn 2:lu 2:cn 2:lu 4:cn 1:lu 8:ll 4:cn 1:ll 1:cn 1:ll 7:cn 1:ll b:lu
  1a:ll 1a:lu 2:cn 1:lu 4:cn 2:lu 8:cn 1:lu 7:cn 1:ll 1a:lu 2:cn 1:lu 4:cn 1:lu 5:cn 1:lu 1:cn
  3:lu 7:cn 1:ll 1a:lu 1a:ll 1a:lu 1a:ll 1a:lu 1a:ll 1a:lu 1a:ll 1a:lu 1a:ll 1a:lu 1a:ll 1c:cn
  2:lu 19:sm 1:ll 19:sm 1:ll 6:lu 19:sm 1:ll 19:sm 1:ll 6:lu 19:sm 1:ll 19:sm 1:ll 6:lu 19:sm 1:ll
  19:sm 1:ll 6:lu 19:sm 1:ll 19:sm 1:ll 6:lu 1:ll 1:cn 2:nd 32:so 200:mn 37:so 4:mn 32:so 8:mn
  1:so e:mn 1:so 2:po 5:cn f:mn 5:cn 1:mn f:cn 450:ll a:lo 1:ll 14:cn 6:ll 6:cn d5:mn 7:cn 1:mn
  11:cn 2:mn 7:cn 1:mn 2:cn 1:mn 5:cn 5:lm 3e:cn 21:mn 1:cn 70:lo 2d:cn 3:mn 7:lm 7:cn 2:nd a:cn
  4:lo 1:so 1:cn 140:lo 1e:mn 1:cn 11:lo 2c:mn 4:nd a:cn 5:sc 1:cn 1d0:lo 1b:lm 1:mn 4:nd a:cn
  2e6:lo 7:cn 1:lo 4:cn 1:lo 2:cn 1:lo f:cn 1:lo c5:cn 2:no 9:mn 7:cn 29:lu 22:ll 22:mn 7:lm 1:cn
  4:nd a:cn 4:po 2:cn 311:no 3b:so 1:no 3:sc 1:no 4:cn 4c:no 2d:so 1:no f:cn c2:lo 4:cn 1:lo 1b:cn
  1:lo 2:cn 1:lo 1:cn 2:lo 1:cn 1:lo a:cn 1:lo 4:cn 1:lo 1:cn 1:lo 1:cn 6:lo 1:cn 4:lo 1:cn 1:lo
  1:cn 1:lo 1:cn 1:lo 3:cn 1:lo 2:cn 1:lo 1:cn 2:lo 1:cn 1:lo 1:cn 1:lo 1:cn 1:lo 1:cn 1:lo 1:cn
  1:lo 2:cn 1:lo 1:cn 2:lo 4:cn 1:lo 7:cn 1:lo 4:cn 1:lo 4:cn 1:lo 1:cn 1:lo a:cn 1:lo 11:cn 5:lo
  3:cn 1:lo 5:cn 1:lo 11:cn 34:sm 2:cn 10e:so 2c:cn 4:so 64:cn c:so f:cn 2:so f:cn 1:so f:cn 1:so
  25:cn a:no d:so a1:cn 38:so 1d:cn d:so 2c:cn 4:so 9:cn 7:so 2:cn e:so 6:cn 9a:so fb:sk 5:so
  2d8:cn 4:so 11:cn 3:so d:cn 3:so 77:cn 4:so 5f:cn 6:so c:cn 4:so 1:cn f:so c:cn 4:so 38:cn 8:so
  a:cn 6:so 28:cn 8:so 1e:cn 2:so 2:cn 4e:so 154:cn c:so e:cn 2:so d:cn 3:so 9:cn 7:so 2e:cn 1:so
  7:cn 8:so e:cn 4:so 9:cn 7:so 9:cn 7:so 93:cn 1:so 37:cn 25:nd a:cn 406:lo a6e0:cn 20:lo 103a:cn
  6:lo de:cn 2:lo 1682:cn e:lo 1d31:cn c1f:lo 21e:cn 5e2:lo 134b:cn 5:lo 1060:cn adc51:cf 1:cn
  1e:cf 60:cn 80:mn f0:cn fe10:co fffe:cn 2:co fffe:cn"

/-- The names of the categories and of their groups, each line with the short form first; they are
without case, blanks, hyphens and underscores. -/
def categoryNames : List (List String) := nameLines "
  c other
  cc control cntrl
  cf format
  cn unassigned
  co privateuse
  cs surrogate
  l letter
  lc casedletter
  ll lowercaseletter
  lm modifierletter
  lo otherletter
  lt titlecaseletter
  lu uppercaseletter
  m mark combiningmark
  mc spacingmark
  me enclosingmark
  mn nonspacingmark
  n number
  nd decimalnumber digit
  nl letternumber
  no othernumber
  p punctuation punct
  pc connectorpunctuation
  pd dashpunctuation
  pe closepunctuation
  pf finalpunctuation
  pi initialpunctuation
  po otherpunctuation
  ps openpunctuation
  s symbol
  sc currencysymbol
  sk modifiersymbol
  sm mathsymbol
  so othersymbol
  z separator
  zl lineseparator
  zp paragraphseparator
  zs spaceseparator"

def CodeSet.ofCategories (labels : List String) : CodeSet :=
  CodeSet.ofRuns categoryRuns labels.contains

/-- The general categories that a short name stands for: a two-letter category is itself, a group
has all categories with its letter, and the cased letters are three of them. -/
def categoryMembers (short : String) : List String :=
  if short = "lc" then ["ll", "lt", "lu"]
  else (categoryRuns.map (·.2)).eraseDups.filter fun label => label = short || label.take 1 == short

def decimalDigits : CodeSet := CodeSet.ofCategories ["nd"]

end FlagHost.Unicode
