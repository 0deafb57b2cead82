import FlagHost.Unicode.Table

/-!
# Scripts

The script of a code point, and the scripts that a code point is used with. Both tables have runs
from below, labelled with the four-letter names; a run of the second table can have several.
-/

namespace FlagHost.Unicode

def scriptRuns : List (Nat × String) := runsOf "
  0:zyyy 41:latn 1a:zyyy 6:latn 1a:zyyy 2f:latn 1:zyyy f:latn 1:zyyy 5:latn 17:zyyy 1:latn 1f:zyyy
  1:latn 1c1:zyyy 27:latn 5:zyyy 5:bopo 2:zyyy 14:zinh 70:grek 4:zyyy 1:grek 3:zzzz 2:grek 4:zyyy
  1:grek 1:zzzz 4:grek 1:zyyy 1:grek 1:zyyy 1:grek 3:zzzz 1:grek 1:zzzz 1:grek 14:zzzz 1:grek
  3f:copt e:grek 10:cyrl 85:zinh 2:cyrl a9:zzzz 1:armn 26:zzzz 2:armn 32:zzzz 2:armn 3:zzzz 1:hebr
  37:zzzz 8:hebr 1b:zzzz 4:hebr 6:zzzz b:arab 5:zyyy 1:arab 6:zyyy 1:arab e:zyyy 1:arab 3:zyyy
  1:arab 20:zyyy 1:arab a:zinh b:arab 1a:zinh 1:arab 6c:zyyy 1:arab 22:syrc e:zzzz 1:syrc 3c:zzzz
  2:syrc 3:arab 30:thaa 32:zzzz e:nkoo 3b:zzzz 2:nkoo 3:samr 2e:zzzz 2:samr f:zzzz 1:mand 1c:zzzz
  2:mand 1:zzzz 1:syrc b:zzzz 5:arab 1f:zzzz 1:arab 2:zzzz 6:arab 4a:zyyy 1:arab 1d:deva 51:zinh
  4:deva f:zyyy 2:deva 1a:beng 4:zzzz 1:beng 8:zzzz 2:beng 2:zzzz 2:beng 16:zzzz 1:beng 7:zzzz
  1:beng 1:zzzz 3:beng 4:zzzz 2:beng 9:zzzz 2:beng 2:zzzz 2:beng 4:zzzz 8:beng 1:zzzz 4:beng
  2:zzzz 1:beng 5:zzzz 2:beng 19:zzzz 2:guru 3:zzzz 1:guru 6:zzzz 4:guru 2:zzzz 2:guru 16:zzzz
  1:guru 7:zzzz 1:guru 2:zzzz 1:guru 2:zzzz 1:guru 2:zzzz 2:guru 1:zzzz 1:guru 5:zzzz 4:guru
  2:zzzz 2:guru 3:zzzz 3:guru 1:zzzz 7:guru 4:zzzz 1:guru 1:zzzz 7:guru 11:zzzz a:gujr 3:zzzz
  1:gujr 9:zzzz 1:gujr 3:zzzz 1:gujr 16:zzzz 1:gujr 7:zzzz 1:gujr 2:zzzz 1:gujr 5:zzzz 2:gujr
  a:zzzz 1:gujr 3:zzzz 1:gujr 3:zzzz 2:gujr 1:zzzz f:gujr 4:zzzz 2:gujr c:zzzz 7:gujr 7:zzzz
  1:orya 3:zzzz 1:orya 8:zzzz 2:orya 2:zzzz 2:orya 16:zzzz 1:orya 7:zzzz 1:orya 2:zzzz 1:orya
  5:zzzz 2:orya 9:zzzz 2:orya 2:zzzz 2:orya 3:zzzz 7:orya 3:zzzz 4:orya 2:zzzz 1:orya 5:zzzz
  2:orya 12:zzzz a:taml 2:zzzz 1:taml 6:zzzz 3:taml 3:zzzz 1:taml 4:zzzz 3:taml 2:zzzz 1:taml
  1:zzzz 1:taml 2:zzzz 3:taml 2:zzzz 3:taml 3:zzzz 3:taml c:zzzz 4:taml 5:zzzz 3:taml 3:zzzz
  1:taml 4:zzzz 2:taml 1:zzzz 6:taml 1:zzzz e:taml 15:zzzz 5:telu d:zzzz 1:telu 3:zzzz 1:telu
  17:zzzz 1:telu 10:zzzz 2:telu 9:zzzz 1:telu 3:zzzz 1:telu 4:zzzz 7:telu 2:zzzz 1:telu 3:zzzz
  2:telu 1:zzzz 2:telu 4:zzzz 2:telu a:zzzz 7:telu 9:knda d:zzzz 1:knda 3:zzzz 1:knda 17:zzzz
  1:knda a:zzzz 1:knda 5:zzzz 2:knda 9:zzzz 1:knda 3:zzzz 1:knda 4:zzzz 7:knda 2:zzzz 6:knda
  2:zzzz 1:knda 4:zzzz 2:knda a:zzzz 1:knda 3:zzzz c:mlym d:zzzz 1:mlym 3:zzzz 1:mlym 33:zzzz
  1:mlym 3:zzzz 1:mlym 6:zzzz 4:mlym 10:zzzz 2:mlym 1a:zzzz 1:sinh 3:zzzz 1:sinh 12:zzzz 3:sinh
  18:zzzz 1:sinh 9:zzzz 1:sinh 1:zzzz 2:sinh 7:zzzz 3:sinh 1:zzzz 4:sinh 6:zzzz 1:sinh 1:zzzz
  1:sinh 8:zzzz 6:sinh a:zzzz 2:sinh 3:zzzz c:thai 3a:zzzz 4:zyyy 1:thai 1c:zzzz 25:laoo 2:zzzz
  1:laoo 1:zzzz 1:laoo 5:zzzz 1:laoo 18:zzzz 1:laoo 1:zzzz 1:laoo 17:zzzz 2:laoo 5:zzzz 1:laoo
  1:zzzz 1:laoo 7:zzzz 1:laoo a:zzzz 2:laoo 4:zzzz 20:tibt 48:zzzz 1:tibt 24:zzzz 4:tibt 27:zzzz
  1:tibt 24:zzzz 1:tibt f:zzzz 1:tibt 7:zyyy 4:tibt 2:zzzz 25:mymr a0:geor 26:zzzz 1:geor 1:zzzz
  5:geor 1:zzzz 2:geor 2b:zyyy 1:geor 4:hang 100:ethi 49:zzzz 1:ethi 4:zzzz 2:ethi 7:zzzz 1:ethi
  1:zzzz 1:ethi 4:zzzz 2:ethi 29:zzzz 1:ethi 4:zzzz 2:ethi 21:zzzz 1:ethi 4:zzzz 2:ethi 7:zzzz
  1:ethi 1:zzzz 1:ethi 4:zzzz 2:ethi f:zzzz 1:ethi 39:zzzz 1:ethi 4:zzzz 2:ethi 43:zzzz 2:ethi
  20:zzzz 3:ethi 1a:zzzz 6:cher 56:zzzz 2:cher 6:zzzz 2:cans 280:ogam 1d:zzzz 3:runr 4b:zyyy
  3:runr b:zzzz 7:tglg 16:zzzz 9:tglg 1:hano 15:zyyy 2:zzzz 9:buhd 14:zzzz c:tagb d:zzzz 1:tagb
  3:zzzz 1:tagb 2:zzzz c:khmr 5e:zzzz 2:khmr a:zzzz 6:khmr a:zzzz 6:mong 2:zyyy 2:mong 1:zyyy
  1:mong 14:zzzz 6:mong 59:zzzz 7:mong 2b:zzzz 5:cans 46:zzzz a:limb 1f:zzzz 1:limb c:zzzz 4:limb
  c:zzzz 4:limb 1:zzzz 3:limb c:tale 1e:zzzz 2:tale 5:zzzz b:talu 2c:zzzz 4:talu 1a:zzzz 6:talu
  b:zzzz 3:talu 2:khmr 20:bugi 1c:zzzz 2:bugi 2:lana 3f:zzzz 1:lana 1d:zzzz 2:lana b:zzzz 6:lana
  a:zzzz 6:lana e:zzzz 2:zinh 1f:zzzz 31:bali 4d:zzzz 3:bali 2f:zzzz 1:sund 40:batk 34:zzzz 8:batk
  4:lepc 38:zzzz 3:lepc f:zzzz 3:lepc 3:olck 30:cyrl 9:zzzz 7:geor 2b:zzzz 2:geor 3:sund 8:zzzz
  8:zinh 3:zyyy 1:zinh d:zyyy 1:zinh 7:zyyy 4:zinh 1:zyyy 6:zinh 1:zyyy 3:zinh 2:zyyy 1:zzzz
  5:latn 26:grek 5:cyrl 1:latn 31:grek 5:latn 4:grek 5:latn d:cyrl 1:latn 46:grek 1:zinh 40:latn
  100:grek 16:zzzz 2:grek 6:zzzz 2:grek 26:zzzz 2:grek 6:zzzz 2:grek 8:zzzz 1:grek 1:zzzz 1:grek
  1:zzzz 1:grek 1:zzzz 1:grek 1f:zzzz 2:grek 35:zzzz 1:grek f:zzzz 1:grek e:zzzz 2:grek 6:zzzz
  1:grek 13:zzzz 2:grek 3:zzzz 1:grek 9:zzzz 1:zyyy c:zinh 2:zyyy 57:zzzz 1:zyyy b:latn 1:zzzz
  2:zyyy b:latn 1:zyyy f:zzzz 1:latn d:zzzz 3:zyyy 21:zzzz f:zinh 21:zzzz f:zyyy 26:grek 1:zyyy
  3:latn 2:zyyy 6:latn 1:zyyy 1b:latn 1:zyyy 11:latn 29:zyyy 3:zzzz 4:zyyy 297:zzzz 19:zyyy b:zzzz
  15:zyyy 3a0:brai 100:zyyy 274:zzzz 2:zyyy 20:zzzz 1:zyyy 69:glag 60:latn 20:copt 74:zzzz 5:copt
  7:geor 26:zzzz 1:geor 1:zzzz 5:geor 1:zzzz 2:tfng 38:zzzz 7:tfng 2:zzzz e:tfng 1:ethi 17:zzzz
  9:ethi 7:zzzz 1:ethi 7:zzzz 1:ethi 7:zzzz 1:ethi 7:zzzz 1:ethi 7:zzzz 1:ethi 7:zzzz 1:ethi
  7:zzzz 1:ethi 7:zzzz 1:cyrl 20:zyyy 5e:zzzz 22:hani 1a:zzzz 1:hani 59:zzzz c:hani d6:zzzz
  1a:zyyy c:zzzz 4:zyyy 5:hani 1:zyyy 1:hani 1:zyyy 19:hani 9:zinh 4:hang 2:zyyy 8:hani 4:zyyy
  4:zzzz 1:hira 56:zzzz 2:zinh 2:zyyy 2:hira 3:zyyy 1:kana 5a:zyyy 2:kana 3:zzzz 5:bopo 2b:zzzz
  1:hang 5e:zzzz 1:zyyy 10:bopo 20:zyyy 24:zzzz c:kana 10:hang 1f:zzzz 1:zyyy 40:hang 1f:zyyy
  51:kana 2f:zyyy 1:kana 58:zyyy a8:hani 19c0:zyyy 40:hani 5200:yiii 48d:zzzz 3:yiii 37:zzzz
  9:lisu 30:vaii 12c:zzzz 14:cyrl 60:bamu 58:zzzz 8:zyyy 22:latn 66:zyyy 3:latn 40:zzzz 5:latn
  2:zzzz 1:latn 1:zzzz 1:latn 5:zzzz 18:latn e:sylo 2d:zzzz 3:zyyy a:zzzz 6:phag 38:zzzz 8:saur
  46:zzzz 8:saur c:zzzz 6:deva 20:kali 2e:zyyy 1:kali 1:rjng 24:zzzz b:rjng 1:hang 1d:zzzz 3:java
  4e:zzzz 1:zyyy 1:java a:zzzz 4:java 2:mymr 1f:zzzz 1:cham 37:zzzz 9:cham e:zzzz 2:cham a:zzzz
  2:cham 4:mymr 20:tavt 43:zzzz 18:tavt 5:mtei 17:zzzz a:ethi 6:zzzz 2:ethi 6:zzzz 2:ethi 6:zzzz
  9:ethi 7:zzzz 1:ethi 7:zzzz 1:latn 2b:zyyy 1:latn 9:grek 1:latn 4:zyyy 2:zzzz 4:cher 50:mtei
  2e:zzzz 2:mtei a:zzzz 6:hang 2ba4:zzzz c:hang 17:zzzz 4:hang 31:zzzz 2104:hani 16e:zzzz 2:hani
  6a:zzzz 26:latn 7:zzzz c:armn 5:zzzz 5:hebr 1a:zzzz 1:hebr 5:zzzz 1:hebr 1:zzzz 1:hebr 2:zzzz
  1:hebr 2:zzzz 1:hebr a:arab 73:zzzz 10:arab 16b:zyyy 2:arab 50:zzzz 2:arab 36:zzzz 7:arab 1:zzzz
  20:arab 10:zinh 10:zyyy a:zzzz 6:zinh e:cyrl 2:zyyy 23:zzzz 1:zyyy 13:zzzz 1:zyyy 4:zzzz 4:arab
  5:zzzz 1:arab 87:zzzz 2:zyyy 1:zzzz 1:zyyy 20:latn 1a:zyyy 6:latn 1a:zyyy b:kana a:zyyy 1:kana
  2d:zyyy 2:hang 1f:zzzz 3:hang 6:zzzz 2:hang 6:zzzz 2:hang 6:zzzz 2:hang 3:zzzz 3:zyyy 7:zzzz
  1:zyyy 7:zzzz a:zyyy 5:zzzz 2:linb c:zzzz 1:linb 1a:zzzz 1:linb 13:zzzz 1:linb 2:zzzz 1:linb
  f:zzzz 2:linb e:zzzz 22:linb 7b:zzzz 5:zyyy 3:zzzz 4:zyyy 2d:zzzz 3:zyyy 9:grek 4f:zzzz 1:zyyy
  d:zzzz 3:grek 1:zzzz 2f:zyyy 2d:zinh 1:zzzz 82:lyci 1d:zzzz 3:cari 31:zzzz f:zinh 1:zyyy 1b:zzzz
  4:ital 24:zzzz 9:ital 3:goth 1b:zzzz 5:perm 2b:zzzz 5:ugar 1e:zzzz 1:ugar 1:xpeo 24:zzzz 4:xpeo
  e:zzzz 2a:dsrt 50:shaw 30:osma 1e:zzzz 2:osma a:zzzz 6:osge 24:zzzz 4:osge 24:zzzz 4:elba
  28:zzzz 8:aghb 34:zzzz b:aghb 1:vith b:zzzz 1:vith f:zzzz 1:vith 7:zzzz 1:vith 2:zzzz 1:vith
  b:zzzz 1:vith f:zzzz 1:vith 7:zzzz 1:vith 2:zzzz 43:lina 137:zzzz 9:lina 16:zzzz a:lina 8:zzzz
  18:latn 6:zzzz 1:latn 2a:zzzz 1:latn 9:zzzz 45:cprt 6:zzzz 2:cprt 1:zzzz 1:cprt 2c:zzzz 1:cprt
  2:zzzz 3:cprt 1:zzzz 2:cprt 1:armi 16:zzzz 1:armi 9:palm 20:nbat 1f:zzzz 8:nbat 9:zzzz 30:hatr
  13:zzzz 1:hatr 2:zzzz 5:hatr 5:phnx 1c:zzzz 3:phnx 1:lydi 1a:zzzz 5:lydi 1:zzzz 40:mero 20:merc
  18:zzzz 4:merc 14:zzzz 2:merc 2e:khar 4:zzzz 1:khar 2:zzzz 5:khar 8:zzzz 1:khar 3:zzzz 1:khar
  1d:zzzz 2:khar 3:zzzz 4:khar a:zzzz 7:khar 9:zzzz 7:sarb 20:narb 20:zzzz 20:mani 27:zzzz 4:mani
  c:zzzz 9:avst 36:zzzz 3:avst 7:prti 16:zzzz 2:prti 8:phli 13:zzzz 5:phli 8:phlp 12:zzzz 7:phlp
  4:zzzz c:phlp 7:zzzz 50:orkh 49:zzzz 37:hung 33:zzzz d:hung 33:zzzz 7:hung 6:rohg 28:zzzz 8:rohg
  a:zzzz 126:arab 1f:zzzz 1:yezi 2a:zzzz 1:yezi 3:zzzz 2:yezi 2:zzzz 4b:arab 3:sogo 28:zzzz 8:sogd
  2a:zzzz 16:ougr 1a:zzzz 26:chrs 1c:zzzz 14:elym 17:zzzz 9:brah 4e:zzzz 4:brah 24:zzzz 9:brah
  1:kthi 43:zzzz a:kthi 1:zzzz 2:sora 19:zzzz 7:sora a:zzzz 6:cakm 35:zzzz 1:cakm 12:zzzz 8:mahj
  27:zzzz 9:shrd 60:zzzz 1:sinh 14:zzzz b:khoj 12:zzzz 1:khoj 2f:zzzz 3e:mult 7:zzzz 1:mult 1:zzzz
  1:mult 4:zzzz 1:mult f:zzzz 1:mult b:zzzz 6:sind 3b:zzzz 5:sind a:zzzz 6:gran 4:zzzz 1:gran
  8:zzzz 2:gran 2:zzzz 2:gran 16:zzzz 1:gran 7:zzzz 1:gran 2:zzzz 1:gran 5:zzzz 1:zinh 1:gran
  9:zzzz 2:gran 2:zzzz 2:gran 3:zzzz 2:gran 1:zzzz 6:gran 1:zzzz 5:gran 7:zzzz 2:gran 7:zzzz
  3:gran 5:zzzz 8b:newa 5c:zzzz 1:newa 5:zzzz 1e:tirh 48:zzzz 8:tirh a:zzzz a6:sidd 36:zzzz 2:sidd
  26:zzzz 22:modi 45:zzzz b:modi a:zzzz 6:mong d:zzzz 13:takr 3a:zzzz 6:takr a:zzzz 36:ahom
  1b:zzzz 2:ahom f:zzzz 4:ahom 17:zzzz b9:dogr 3c:zzzz 64:wara 53:zzzz c:wara 1:diak 7:zzzz 2:diak
  1:zzzz 2:diak 8:zzzz 1:diak 2:zzzz 1:diak 1e:zzzz 1:diak 2:zzzz 2:diak c:zzzz 9:diak a:zzzz
  46:nand 8:zzzz 2:nand 2e:zzzz 2:nand b:zzzz 1b:zanb 48:zzzz 8:soyo 53:zzzz d:cans 10:pauc
  39:zzzz 7:deva a:zzzz f6:bhks 9:zzzz 1:bhks 2d:zzzz 1:bhks e:zzzz a:bhks 1d:zzzz 3:marc 20:zzzz
  2:marc 16:zzzz 1:marc e:zzzz 49:gonm 7:zzzz 1:gonm 2:zzzz 1:gonm 2c:zzzz 3:gonm 1:zzzz 1:gonm
  2:zzzz 1:gonm 9:zzzz 8:gonm a:zzzz 6:gong 6:zzzz 1:gong 2:zzzz 1:gong 25:zzzz 1:gong 2:zzzz
  1:gong 6:zzzz 7:gong a:zzzz 136:maka 19:zzzz 7:kawi 11:zzzz 1:kawi 29:zzzz 3:kawi 1c:zzzz
  56:lisu 1:zzzz f:taml 32:zzzz d:taml 1:xsux 39a:zzzz 66:xsux 6f:zzzz 1:xsux 5:zzzz b:xsux
  c4:zzzz a4c:cpmn 63:zzzz d:egyp 456:zzzz faa:hluw 247:zzzz 21b9:bamu 239:zzzz 7:mroo 1f:zzzz
  1:mroo a:zzzz 4:mroo 2:tnsa 4f:zzzz 1:tnsa a:zzzz 6:bass 1e:zzzz 2:bass 6:zzzz a:hmng 46:zzzz
  a:hmng a:zzzz 1:hmng 7:zzzz 1:hmng 15:zzzz 5:hmng 13:zzzz 2b0:medf 5b:zzzz 65:plrd 4b:zzzz
  4:plrd 39:zzzz 7:plrd 11:zzzz 40:tang 1:nshu 1:hani 2:kits 1:zzzz b:hani 2:zzzz e:tang 17f8:zzzz
  8:tang 300:kits 1d6:zzzz 2a:tang 9:zzzz 22e7:kana 4:zzzz 1:kana 7:zzzz 1:kana 2:zzzz 1:kana
  1:hira 11f:kana 3:zzzz f:hira 1:zzzz 1d:hira 3:zzzz 2:kana 1:zzzz e:kana 4:zzzz 8:nshu 18c:zzzz
  904:dupl 6b:zzzz 5:dupl d:zzzz 3:dupl 9:zzzz 7:dupl a:zzzz 2:dupl 4:zyyy 4:zzzz 125c:zinh
  2e:zzzz 2:zinh 17:zzzz 9:zyyy 74:zzzz 3c:zyyy f6:zzzz a:zyyy 27:zzzz 2:zyyy 3e:zinh 3:zyyy
  11:zinh 8:zyyy 2:zinh 7:zyyy 1e:zinh 4:zyyy 3d:zzzz 15:grek 46:zzzz 7a:zyyy 14:zzzz c:zyyy
  14:zzzz c:zyyy 57:zzzz 9:zyyy 19:zzzz 87:zyyy 55:zzzz 1:zyyy 47:zzzz 1:zyyy 2:zzzz 2:zyyy 1:zzzz
  2:zyyy 2:zzzz 2:zyyy 4:zzzz 1:zyyy c:zzzz 1:zyyy 1:zzzz 1:zyyy 7:zzzz 1:zyyy 41:zzzz 1:zyyy
  4:zzzz 2:zyyy 8:zzzz 1:zyyy 7:zzzz 1:zyyy 1c:zzzz 1:zyyy 4:zzzz 1:zyyy 5:zzzz 1:zyyy 1:zzzz
  3:zyyy 7:zzzz 1:zyyy 154:zzzz 2:zyyy 124:zzzz 2:zyyy 32:sgnw 28c:zzzz f:sgnw 5:zzzz 1:sgnw
  f:zzzz 450:latn 1f:zzzz 6:latn 6:zzzz d5:glag 7:zzzz 1:glag 11:zzzz 2:glag 7:zzzz 1:glag 2:zzzz
  1:glag 5:zzzz 5:cyrl 3e:zzzz 21:cyrl 1:zzzz 70:hmnp 2d:zzzz 3:hmnp e:zzzz 2:hmnp a:zzzz 4:hmnp
  2:zzzz 140:toto 1f:zzzz 11:wcho 3a:zzzz 5:wcho 1:zzzz 1d0:nagm 2a:zzzz 2e6:ethi 7:zzzz 1:ethi
  4:zzzz 1:ethi 2:zzzz 1:ethi f:zzzz 1:mend c5:zzzz 2:mend 10:zzzz 29:adlm 4c:zzzz 4:adlm a:zzzz
  4:adlm 2:zzzz 311:zyyy 44:zzzz 4c:zyyy 3d:zzzz c2:arab 4:zzzz 1:arab 1b:zzzz 1:arab 2:zzzz
  1:arab 1:zzzz 2:arab 1:zzzz 1:arab a:zzzz 1:arab 4:zzzz 1:arab 1:zzzz 1:arab 1:zzzz 6:arab
  1:zzzz 4:arab 1:zzzz 1:arab 1:zzzz 1:arab 1:zzzz 1:arab 3:zzzz 1:arab 2:zzzz 1:arab 1:zzzz
  2:arab 1:zzzz 1:arab 1:zzzz 1:arab 1:zzzz 1:arab 1:zzzz 1:arab 1:zzzz 1:arab 2:zzzz 1:arab
  1:zzzz 2:arab 4:zzzz 1:arab 7:zzzz 1:arab 4:zzzz 1:arab 4:zzzz 1:arab 1:zzzz 1:arab a:zzzz
  1:arab 11:zzzz 5:arab 3:zzzz 1:arab 5:zzzz 1:arab 11:zzzz 34:arab 2:zzzz 10e:zyyy 2c:zzzz 4:zyyy
  64:zzzz c:zyyy f:zzzz 2:zyyy f:zzzz 1:zyyy f:zzzz 1:zyyy 25:zzzz a:zyyy ae:zzzz 38:zyyy 1a:hira
  1:zyyy 2:zzzz d:zyyy 2c:zzzz 4:zyyy 9:zzzz 7:zyyy 2:zzzz e:zyyy 6:zzzz 9a:zyyy 3d8:zzzz 4:zyyy
  11:zzzz 3:zyyy d:zzzz 3:zyyy 77:zzzz 4:zyyy 5f:zzzz 6:zyyy c:zzzz 4:zyyy 1:zzzz f:zyyy c:zzzz
  4:zyyy 38:zzzz 8:zyyy a:zzzz 6:zyyy 28:zzzz 8:zyyy 1e:zzzz 2:zyyy 2:zzzz 4e:zyyy 154:zzzz c:zyyy
  e:zzzz 2:zyyy d:zzzz 3:zyyy 9:zzzz 7:zyyy 2e:zzzz 1:zyyy 7:zzzz 8:zyyy e:zzzz 4:zyyy 9:zzzz
  7:zyyy 9:zzzz 7:zyyy 93:zzzz 1:zyyy 37:zzzz 25:zyyy a:zzzz 406:hani a6e0:zzzz 20:hani 103a:zzzz
  6:hani de:zzzz 2:hani 1682:zzzz e:hani 1d31:zzzz c1f:hani 21e:zzzz 5e2:hani 134b:zzzz 5:hani
  1060:zzzz adc51:zyyy 1:zzzz 1e:zyyy 60:zzzz 80:zinh f0:zzzz"

/-- Where each run of one set of scripts starts, and the scripts with a plus sign between them. -/
def scriptExtensionRuns : List (Nat × String) := runsOf ("
  0:zyyy 41:latn 1a:zyyy 6:latn 1a:zyyy 2f:latn 1:zyyy f:latn 1:zyyy 5:latn 17:zyyy 1:latn 1f:zyyy
  1:latn 1c1:zyyy 27:latn 5:zyyy 5:bopo 2:zyyy 14:zinh 42:grek 1:zinh 2:grek 1:zinh 1d:latn d:grek
  4:zyyy 1:grek 3:zzzz 2:grek 4:zyyy 1:grek 1:zzzz 4:grek 1:zyyy 1:grek 1:zyyy 1:grek 3:zzzz
  1:grek 1:zzzz 1:grek 14:zzzz 1:grek 3f:copt e:grek 10:cyrl 83:cyrl+perm 1:cyrl+glag 1:cyrl+latn
  2:cyrl+glag 1:cyrl a8:zzzz 1:armn 26:zzzz 2:armn 32:zzzz 2:armn 3:zzzz 1:hebr 37:zzzz 8:hebr
  1b:zzzz 4:hebr 6:zzzz b:arab 5:zyyy 1:arab 6:arab+nkoo+rohg+syrc+thaa+yezi 1:arab
  e:arab+nkoo+rohg+syrc+thaa+yezi 1:arab+syrc+thaa 1:arab 2:adlm+arab+nkoo+rohg+syrc+thaa+yezi
  1:arab 20:adlm+arab+mand+mani+ougr+phlp+rohg+sogd+syrc 1:arab a:arab+syrc b:arab
  a:arab+thaa+yezi a:arab 6:arab+syrc 1:arab 63:arab+rohg 1:arab 8:zyyy 1:arab 22:syrc e:zzzz
  1:syrc 3c:zzzz 2:syrc 3:arab 30:thaa 32:zzzz e:nkoo 3b:zzzz 2:nkoo 3:samr 2e:zzzz 2:samr f:zzzz
  1:mand 1c:zzzz 2:mand 1:zzzz 1:syrc b:zzzz 5:arab 1f:zzzz 1:arab 2:zzzz 6:arab 4a:zyyy 1:arab
  1d:deva 51:beng+deva+gran+gujr+guru+knda+latn+mlym+orya+shrd+taml+telu+tirh
  1:beng+deva+gran+gujr+guru+knda+latn+mlym+orya+taml+telu+tirh 1:zinh 2:deva
  f:beng+deva+dogr+gong+gonm+gran+gujr+guru+knda+mahj+mlym+nand+orya+sind+sinh+sylo" ++
  "+takr+taml+telu+tirh
  1:beng+deva+dogr+gong+gonm+gran+gujr+guru+knda+limb+mahj+mlym+nand+orya+sind+sinh+sylo" ++
  "+takr+taml+telu+tirh
  1:deva+dogr+kthi+mahj a:deva 10:beng 4:zzzz 1:beng 8:zzzz 2:beng 2:zzzz 2:beng 16:zzzz 1:beng
  7:zzzz 1:beng 1:zzzz 3:beng 4:zzzz 2:beng 9:zzzz 2:beng 2:zzzz 2:beng 4:zzzz 8:beng 1:zzzz
  4:beng 2:zzzz 1:beng 5:zzzz 2:beng+cakm+sylo a:beng f:zzzz 2:guru 3:zzzz 1:guru 6:zzzz 4:guru
  2:zzzz 2:guru 16:zzzz 1:guru 7:zzzz 1:guru 2:zzzz 1:guru 2:zzzz 1:guru 2:zzzz 2:guru 1:zzzz
  1:guru 5:zzzz 4:guru 2:zzzz 2:guru 3:zzzz 3:guru 1:zzzz 7:guru 4:zzzz 1:guru 1:zzzz 7:guru+mult
  a:guru 7:zzzz a:gujr 3:zzzz 1:gujr 9:zzzz 1:gujr 3:zzzz 1:gujr 16:zzzz 1:gujr 7:zzzz 1:gujr
  2:zzzz 1:gujr 5:zzzz 2:gujr a:zzzz 1:gujr 3:zzzz 1:gujr 3:zzzz 2:gujr 1:zzzz f:gujr 4:zzzz
  2:gujr+khoj a:gujr 2:zzzz 7:gujr 7:zzzz 1:orya 3:zzzz 1:orya 8:zzzz 2:orya 2:zzzz 2:orya 16:zzzz
  1:orya 7:zzzz 1:orya 2:zzzz 1:orya 5:zzzz 2:orya 9:zzzz 2:orya 2:zzzz 2:orya 3:zzzz 7:orya
  3:zzzz 4:orya 2:zzzz 1:orya 5:zzzz 2:orya 12:zzzz a:taml 2:zzzz 1:taml 6:zzzz 3:taml 3:zzzz
  1:taml 4:zzzz 3:taml 2:zzzz 1:taml 1:zzzz 1:taml 2:zzzz 3:taml 2:zzzz 3:taml 3:zzzz 3:taml
  c:zzzz 4:taml 5:zzzz 3:taml 3:zzzz 1:taml 4:zzzz 2:taml 1:zzzz 6:taml 1:zzzz e:gran+taml e:taml
  7:zzzz 5:telu d:zzzz 1:telu 3:zzzz 1:telu 17:zzzz 1:telu 10:zzzz 2:telu 9:zzzz 1:telu 3:zzzz
  1:telu 4:zzzz 7:telu 2:zzzz 1:telu 3:zzzz 2:telu 1:zzzz 2:telu 4:zzzz 2:telu a:zzzz 7:telu
  9:knda d:zzzz 1:knda 3:zzzz 1:knda 17:zzzz 1:knda a:zzzz 1:knda 5:zzzz 2:knda 9:zzzz 1:knda
  3:zzzz 1:knda 4:zzzz 7:knda 2:zzzz 6:knda 2:zzzz 1:knda 4:zzzz 2:knda+nand a:zzzz 1:knda 3:zzzz
  c:mlym d:zzzz 1:mlym 3:zzzz 1:mlym 33:zzzz 1:mlym 3:zzzz 1:mlym 6:zzzz 4:mlym 10:zzzz 2:mlym
  1a:zzzz 1:sinh 3:zzzz 1:sinh 12:zzzz 3:sinh 18:zzzz 1:sinh 9:zzzz 1:sinh 1:zzzz 2:sinh 7:zzzz
  3:sinh 1:zzzz 4:sinh 6:zzzz 1:sinh 1:zzzz 1:sinh 8:zzzz 6:sinh a:zzzz 2:sinh 3:zzzz c:thai
  3a:zzzz 4:zyyy 1:thai 1c:zzzz 25:laoo 2:zzzz 1:laoo 1:zzzz 1:laoo 5:zzzz 1:laoo 18:zzzz 1:laoo
  1:zzzz 1:laoo 17:zzzz 2:laoo 5:zzzz 1:laoo 1:zzzz 1:laoo 7:zzzz 1:laoo a:zzzz 2:laoo 4:zzzz
  20:tibt 48:zzzz 1:tibt 24:zzzz 4:tibt 27:zzzz 1:tibt 24:zzzz 1:tibt f:zzzz 1:tibt 7:zyyy 4:tibt
  2:zzzz 25:mymr 40:cakm+mymr+tale a:mymr 56:geor 26:zzzz 1:geor 1:zzzz 5:geor 1:zzzz 2:geor
  2b:geor+latn 1:geor 4:hang 100:ethi 49:zzzz 1:ethi 4:zzzz 2:ethi 7:zzzz 1:ethi 1:zzzz 1:ethi
  4:zzzz 2:ethi 29:zzzz 1:ethi 4:zzzz 2:ethi 21:zzzz 1:ethi 4:zzzz 2:ethi 7:zzzz 1:ethi 1:zzzz
  1:ethi 4:zzzz 2:ethi f:zzzz 1:ethi 39:zzzz 1:ethi 4:zzzz 2:ethi 43:zzzz 2:ethi 20:zzzz 3:ethi
  1a:zzzz 6:cher 56:zzzz 2:cher 6:zzzz 2:cans 280:ogam 1d:zzzz 3:runr 4b:zyyy 3:runr b:zzzz 7:tglg
  16:zzzz 9:tglg 1:hano 15:buhd+hano+tagb+tglg 2:zzzz 9:buhd 14:zzzz c:tagb d:zzzz 1:tagb 3:zzzz
  1:tagb 2:zzzz c:khmr 5e:zzzz 2:khmr a:zzzz 6:khmr a:zzzz 6:mong 2:mong+phag 2:mong 1:mong+phag
  1:mong 14:zzzz 6:mong 59:zzzz 7:mong 2b:zzzz 5:cans 46:zzzz a:limb 1f:zzzz 1:limb c:zzzz 4:limb
  c:zzzz 4:limb 1:zzzz 3:limb c:tale 1e:zzzz 2:tale 5:zzzz b:talu 2c:zzzz 4:talu 1a:zzzz 6:talu
  b:zzzz 3:talu 2:khmr 20:bugi 1c:zzzz 2:bugi 2:lana 3f:zzzz 1:lana 1d:zzzz 2:lana b:zzzz 6:lana
  a:zzzz 6:lana e:zzzz 2:zinh 1f:zzzz 31:bali 4d:zzzz 3:bali 2f:zzzz 1:sund 40:batk 34:zzzz 8:batk
  4:lepc 38:zzzz 3:lepc f:zzzz 3:lepc 3:olck 30:cyrl 9:zzzz 7:geor 2b:zzzz 2:geor 3:sund 8:zzzz
  8:beng+deva+gran+knda 1:deva 1:beng+deva+gran+knda 1:deva+gran 1:deva 1:beng+deva 2:deva+shrd
  1:beng+deva 1:deva+shrd 1:deva+knda+mlym+orya+taml+telu 1:deva 1:deva+shrd 2:deva 2:deva+shrd
  1:beng+deva 1:deva 7:deva+nand 1:beng+deva 1:deva 2:beng+deva 1:deva
  4:beng+deva+gran+knda+nand+orya+telu+tirh 1:deva+gran 1:deva+gran+knda 1:beng+deva 2:beng
  1:deva+gran 2:nand 1:zzzz 5:latn 26:grek 5:cyrl 1:latn 31:grek 5:latn 4:grek 5:latn d:cyrl
  1:latn 46:grek 3:zinh 36:cyrl+syrc 1:zinh 1:syrc 1:zinh 5:latn 100:grek 16:zzzz 2:grek 6:zzzz
  2:grek 26:zzzz 2:grek 6:zzzz 2:grek 8:zzzz 1:grek 1:zzzz 1:grek 1:zzzz 1:grek 1:zzzz 1:grek
  1f:zzzz 2:grek 35:zzzz 1:grek f:zzzz 1:grek e:zzzz 2:grek 6:zzzz 1:grek 13:zzzz 2:grek 3:zzzz
  1:grek 9:zzzz 1:zyyy c:zinh 2:zyyy 21:latn+mong 1:zyyy 35:zzzz 1:zyyy b:latn 1:zzzz 2:zyyy
  b:latn 1:zyyy f:zzzz 1:latn d:zzzz 3:zyyy 21:zzzz f:zinh 20:deva+gran+latn 1:zzzz f:zyyy 26:grek
  1:zyyy 3:latn 2:zyyy 6:latn 1:zyyy 1b:latn 1:zyyy 11:latn 29:zyyy 3:zzzz 4:zyyy 297:zzzz 19:zyyy
  b:zzzz 15:zyyy 3a0:brai 100:zyyy 274:zzzz 2:zyyy 20:zzzz 1:zyyy 69:glag 60:latn 20:copt 74:zzzz
  5:copt 7:geor 26:zzzz 1:geor 1:zzzz 5:geor 1:zzzz 2:tfng 38:zzzz 7:tfng 2:zzzz e:tfng 1:ethi
  17:zzzz 9:ethi 7:zzzz 1:ethi 7:zzzz 1:ethi 7:zzzz 1:ethi 7:zzzz 1:ethi 7:zzzz 1:ethi 7:zzzz
  1:ethi 7:zzzz 1:ethi 7:zzzz 1:cyrl 20:zyyy 43:cyrl+glag 1:zyyy 1a:zzzz 22:hani 1a:zzzz 1:hani
  59:zzzz c:hani d6:zzzz 1a:zyyy c:zzzz 4:zyyy 1:bopo+hang+hani+hira+kana+yiii
  2:bopo+hang+hani+hira+kana 1:zyyy 1:hani 3:bopo+hang+hani+hira+kana+yiii a:zyyy
  1:bopo+hang+hani+hira+kana 1:bopo+hang+hani+hira+kana+yiii 8:bopo+hang+hani+hira+kana 4:zyyy
  1:hani 9:bopo+hani 4:hang 2:bopo+hang+hani+hira+kana 1:hira+kana 5:zyyy
  1:bopo+hang+hani+hira+kana 1:hani 4:hani+hira+kana 2:hani 2:zzzz 1:hira 56:zzzz 2:hira+kana
  4:hira 3:hira+kana 1:kana 5a:bopo+hang+hani+hira+kana+yiii 1:hira+kana 1:kana 3:zzzz 5:bopo
  2b:zzzz 1:hang 5e:zzzz 1:hani 10:bopo 20:hani 24:zzzz c:kana 10:hang 1f:zzzz 1:hani 28:zyyy
  18:hang 1f:zyyy 1:hani 31:zyyy f:hani c:zyyy 4:kana 2f:hani 1:kana 58:hani 19:zyyy a:hani 5:zyyy
  60:hani 1f:zyyy 1:hani 19c0:zyyy 40:hani 5200:yiii 48d:zzzz 3:yiii 37:zzzz 9:lisu 30:vaii
  12c:zzzz 14:cyrl 2f:cyrl+glag 1:cyrl 30:bamu 58:zzzz 8:hani+latn 8:zyyy 1a:latn 66:zyyy 3:latn
  40:zzzz 5:latn 2:zzzz 1:latn 1:zzzz 1:latn 5:zzzz 18:latn e:sylo 2d:zzzz
  3:deva+dogr+gujr+guru+khoj+knda+kthi+mahj+mlym+modi+nand+sind+takr+tirh
  3:deva+dogr+gujr+guru+khoj+knda+kthi+mahj+modi+nand+sind+takr+tirh
  3:deva+dogr+gujr+guru+khoj+kthi+mahj+modi+sind+takr+tirh 4:zzzz 6:phag 38:zzzz 8:saur 46:zzzz
  8:saur c:zzzz 6:deva 11:beng+deva 1:deva 1:deva+taml 1:deva c:kali 2e:kali+latn+mymr 1:kali
  1:rjng 24:zzzz b:rjng 1:hang 1d:zzzz 3:java 4e:zzzz 1:bugi+java 1:java a:zzzz 4:java 2:mymr
  1f:zzzz 1:cham 37:zzzz 9:cham e:zzzz 2:cham a:zzzz 2:cham 4:mymr 20:tavt 43:zzzz 18:tavt 5:mtei
  17:zzzz a:ethi 6:zzzz 2:ethi 6:zzzz 2:ethi 6:zzzz 9:ethi 7:zzzz 1:ethi 7:zzzz 1:latn 2b:zyyy
  1:latn 9:grek 1:latn 4:zyyy 2:zzzz 4:cher 50:mtei 2e:zzzz 2:mtei a:zzzz 6:hang 2ba4:zzzz c:hang
  17:zzzz 4:hang 31:zzzz 2104:hani 16e:zzzz 2:hani 6a:zzzz 26:latn 7:zzzz c:armn 5:zzzz 5:hebr
  1a:zzzz 1:hebr 5:zzzz 1:hebr 1:zzzz 1:hebr 2:zzzz 1:hebr 2:zzzz 1:hebr a:arab 73:zzzz 10:arab
  16b:arab+nkoo 2:arab 50:zzzz 2:arab 36:zzzz 7:arab 1:zzzz 20:arab 2:arab+thaa 1:arab a:arab+thaa
  1:arab 2:zinh 10:zyyy a:zzzz 6:zinh e:cyrl 2:zyyy 15:bopo+hang+hani+hira+kana 2:zyyy c:zzzz
  1:zyyy 13:zzzz 1:zyyy 4:zzzz 4:arab 5:zzzz 1:arab 87:zzzz 2:zyyy 1:zzzz 1:zyyy 20:latn 1a:zyyy
  6:latn 1a:zyyy 6:bopo+hang+hani+hira+kana+yiii 5:kana a:hira+kana 1:kana 2d:hira+kana 2:hang
  1f:zzzz 3:hang 6:zzzz 2:hang 6:zzzz 2:hang 6:zzzz 2:hang 3:zzzz 3:zyyy 7:zzzz 1:zyyy 7:zzzz
  a:zyyy 5:zzzz 2:linb c:zzzz 1:linb 1a:zzzz 1:linb 13:zzzz 1:linb 2:zzzz 1:linb f:zzzz 2:linb
  e:zzzz 22:linb 7b:zzzz 5:cpmn+cprt+linb 2:cprt+linb 1:zzzz 4:cprt+lina+linb 2d:zzzz 3:cprt+linb
  9:grek 4f:zzzz 1:zyyy d:zzzz 3:grek 1:zzzz 2f:zyyy 2d:zinh 1:zzzz 82:lyci 1d:zzzz 3:cari 31:zzzz
  f:arab+copt 1c:zzzz 4:ital 24:zzzz 9:ital 3:goth 1b:zzzz 5:perm 2b:zzzz 5:ugar 1e:zzzz 1:ugar
  1:xpeo 24:zzzz 4:xpeo e:zzzz 2a:dsrt 50:shaw 30:osma 1e:zzzz 2:osma a:zzzz 6:osge 24:zzzz 4:osge
  24:zzzz 4:elba 28:zzzz 8:aghb 34:zzzz b:aghb 1:vith b:zzzz 1:vith f:zzzz 1:vith 7:zzzz 1:vith
  2:zzzz 1:vith b:zzzz 1:vith f:zzzz 1:vith 7:zzzz 1:vith 2:zzzz 43:lina 137:zzzz 9:lina 16:zzzz
  a:lina 8:zzzz 18:latn 6:zzzz 1:latn 2a:zzzz 1:latn 9:zzzz 45:cprt 6:zzzz 2:cprt 1:zzzz 1:cprt
  2c:zzzz 1:cprt 2:zzzz 3:cprt 1:zzzz 2:cprt 1:armi 16:zzzz 1:armi 9:palm 20:nbat 1f:zzzz 8:nbat
  9:zzzz 30:hatr 13:zzzz 1:hatr 2:zzzz 5:hatr 5:phnx 1c:zzzz 3:phnx 1:lydi 1a:zzzz 5:lydi 1:zzzz
  40:mero 20:merc 18:zzzz 4:merc 14:zzzz 2:merc 2e:khar 4:zzzz 1:khar 2:zzzz 5:khar 8:zzzz 1:khar
  3:zzzz 1:khar 1d:zzzz 2:khar 3:zzzz 4:khar a:zzzz 7:khar 9:zzzz 7:sarb 20:narb 20:zzzz 20:mani
  27:zzzz 4:mani 7:mani+ougr 1:mani 4:zzzz 9:avst 36:zzzz 3:avst 7:prti 16:zzzz 2:prti 8:phli
  13:zzzz 5:phli 8:phlp 12:zzzz 7:phlp 4:zzzz c:phlp 7:zzzz 50:orkh 49:zzzz 37:hung 33:zzzz d:hung
  33:zzzz 7:hung 6:rohg 28:zzzz 8:rohg a:zzzz 126:arab 1f:zzzz 1:yezi 2a:zzzz 1:yezi 3:zzzz 2:yezi
  2:zzzz 4b:arab 3:sogo 28:zzzz 8:sogd 2a:zzzz 16:ougr 1a:zzzz 26:chrs 1c:zzzz 14:elym 17:zzzz
  9:brah 4e:zzzz 4:brah 24:zzzz 9:brah 1:kthi 43:zzzz a:kthi 1:zzzz 2:sora 19:zzzz 7:sora a:zzzz
  6:cakm 35:zzzz 1:cakm 12:zzzz 8:mahj 27:zzzz 9:shrd 60:zzzz 1:sinh 14:zzzz b:khoj 12:zzzz 1:khoj
  2f:zzzz 3e:mult 7:zzzz 1:mult 1:zzzz 1:mult 4:zzzz 1:mult f:zzzz 1:mult b:zzzz 6:sind 3b:zzzz
  5:sind a:zzzz 6:gran 1:gran+taml 1:gran 1:gran+taml 1:zzzz 1:gran 8:zzzz 2:gran 2:zzzz 2:gran
  16:zzzz 1:gran 7:zzzz 1:gran 2:zzzz 1:gran 5:zzzz 1:gran+taml 2:gran 8:zzzz 2:gran 2:zzzz 2:gran
  3:zzzz 2:gran 1:zzzz 6:gran 1:zzzz 5:gran 7:zzzz 2:gran 7:zzzz 3:gran 5:zzzz 8b:newa 5c:zzzz
  1:newa 5:zzzz 1e:tirh 48:zzzz 8:tirh a:zzzz a6:sidd 36:zzzz 2:sidd 26:zzzz 22:modi 45:zzzz
  b:modi a:zzzz 6:mong d:zzzz 13:takr 3a:zzzz 6:takr a:zzzz 36:ahom 1b:zzzz 2:ahom f:zzzz 4:ahom
  17:zzzz b9:dogr 3c:zzzz 64:wara 53:zzzz c:wara 1:diak 7:zzzz 2:diak 1:zzzz 2:diak 8:zzzz 1:diak
  2:zzzz 1:diak 1e:zzzz 1:diak 2:zzzz 2:diak c:zzzz 9:diak a:zzzz 46:nand 8:zzzz 2:nand 2e:zzzz
  2:nand b:zzzz 1b:zanb 48:zzzz 8:soyo 53:zzzz d:cans 10:pauc 39:zzzz 7:deva a:zzzz f6:bhks 9:zzzz
  1:bhks 2d:zzzz 1:bhks e:zzzz a:bhks 1d:zzzz 3:marc 20:zzzz 2:marc 16:zzzz 1:marc e:zzzz 49:gonm
  7:zzzz 1:gonm 2:zzzz 1:gonm 2c:zzzz 3:gonm 1:zzzz 1:gonm 2:zzzz 1:gonm 9:zzzz 8:gonm a:zzzz
  6:gong 6:zzzz 1:gong 2:zzzz 1:gong 25:zzzz 1:gong 2:zzzz 1:gong 6:zzzz 7:gong a:zzzz 136:maka
  19:zzzz 7:kawi 11:zzzz 1:kawi 29:zzzz 3:kawi 1c:zzzz 56:lisu 1:zzzz f:taml 10:gran+taml 2:taml
  1:gran+taml 1:taml 1e:zzzz d:taml 1:xsux 39a:zzzz 66:xsux 6f:zzzz 1:xsux 5:zzzz b:xsux c4:zzzz
  a4c:cpmn 63:zzzz d:egyp 456:zzzz faa:hluw 247:zzzz 21b9:bamu 239:zzzz 7:mroo 1f:zzzz 1:mroo
  a:zzzz 4:mroo 2:tnsa 4f:zzzz 1:tnsa a:zzzz 6:bass 1e:zzzz 2:bass 6:zzzz a:hmng 46:zzzz a:hmng
  a:zzzz 1:hmng 7:zzzz 1:hmng 15:zzzz 5:hmng 13:zzzz 2b0:medf 5b:zzzz 65:plrd 4b:zzzz 4:plrd
  39:zzzz 7:plrd 11:zzzz 40:tang 1:nshu 1:hani 2:kits 1:zzzz b:hani 2:zzzz e:tang 17f8:zzzz 8:tang
  300:kits 1d6:zzzz 2a:tang 9:zzzz 22e7:kana 4:zzzz 1:kana 7:zzzz 1:kana 2:zzzz 1:kana 1:hira
  11f:kana 3:zzzz f:hira 1:zzzz 1d:hira 3:zzzz 2:kana 1:zzzz e:kana 4:zzzz 8:nshu 18c:zzzz
  904:dupl 6b:zzzz 5:dupl d:zzzz 3:dupl 9:zzzz 7:dupl a:zzzz 2:dupl 8:zzzz 125c:zinh 2e:zzzz
  2:zinh 17:zzzz 9:zyyy 74:zzzz 3c:zyyy f6:zzzz a:zyyy 27:zzzz 2:zyyy 3e:zinh 3:zyyy 11:zinh
  8:zyyy 2:zinh 7:zyyy 1e:zinh 4:zyyy 3d:zzzz 15:grek 46:zzzz 7a:zyyy 14:zzzz c:zyyy 14:zzzz
  c:zyyy 57:zzzz 9:hani 12:zyyy 7:zzzz 87:zyyy 55:zzzz 1:zyyy 47:zzzz 1:zyyy 2:zzzz 2:zyyy 1:zzzz
  2:zyyy 2:zzzz 2:zyyy 4:zzzz 1:zyyy c:zzzz 1:zyyy 1:zzzz 1:zyyy 7:zzzz 1:zyyy 41:zzzz 1:zyyy
  4:zzzz 2:zyyy 8:zzzz 1:zyyy 7:zzzz 1:zyyy 1c:zzzz 1:zyyy 4:zzzz 1:zyyy 5:zzzz 1:zyyy 1:zzzz
  3:zyyy 7:zzzz 1:zyyy 154:zzzz 2:zyyy 124:zzzz 2:zyyy 32:sgnw 28c:zzzz f:sgnw 5:zzzz 1:sgnw
  f:zzzz 450:latn 1f:zzzz 6:latn 6:zzzz d5:glag 7:zzzz 1:glag 11:zzzz 2:glag 7:zzzz 1:glag 2:zzzz
  1:glag 5:zzzz 5:cyrl 3e:zzzz 21:cyrl 1:zzzz 70:hmnp 2d:zzzz 3:hmnp e:zzzz 2:hmnp a:zzzz 4:hmnp
  2:zzzz 140:toto 1f:zzzz 11:wcho 3a:zzzz 5:wcho 1:zzzz 1d0:nagm 2a:zzzz 2e6:ethi 7:zzzz 1:ethi
  4:zzzz 1:ethi 2:zzzz 1:ethi f:zzzz 1:mend c5:zzzz 2:mend 10:zzzz 29:adlm 4c:zzzz 4:adlm a:zzzz
  4:adlm 2:zzzz 311:zyyy 44:zzzz 4c:zyyy 3d:zzzz c2:arab 4:zzzz 1:arab 1b:zzzz 1:arab 2:zzzz
  1:arab 1:zzzz 2:arab 1:zzzz 1:arab a:zzzz 1:arab 4:zzzz 1:arab 1:zzzz 1:arab 1:zzzz 6:arab
  1:zzzz 4:arab 1:zzzz 1:arab 1:zzzz 1:arab 1:zzzz 1:arab 3:zzzz 1:arab 2:zzzz 1:arab 1:zzzz
  2:arab 1:zzzz 1:arab 1:zzzz 1:arab 1:zzzz 1:arab 1:zzzz 1:arab 1:zzzz 1:arab 2:zzzz 1:arab
  1:zzzz 2:arab 4:zzzz 1:arab 7:zzzz 1:arab 4:zzzz 1:arab 4:zzzz 1:arab 1:zzzz 1:arab a:zzzz
  1:arab 11:zzzz 5:arab 3:zzzz 1:arab 5:zzzz 1:arab 11:zzzz 34:arab 2:zzzz 10e:zyyy 2c:zzzz 4:zyyy
  64:zzzz c:zyyy f:zzzz 2:zyyy f:zzzz 1:zyyy f:zzzz 1:zyyy 25:zzzz a:zyyy ae:zzzz 38:zyyy 1a:hira
  1:zyyy 2:zzzz d:zyyy 2c:zzzz 4:zyyy 9:zzzz 7:hani 2:zzzz e:zyyy 6:zzzz 9a:zyyy 3d8:zzzz 4:zyyy
  11:zzzz 3:zyyy d:zzzz 3:zyyy 77:zzzz 4:zyyy 5f:zzzz 6:zyyy c:zzzz 4:zyyy 1:zzzz f:zyyy c:zzzz
  4:zyyy 38:zzzz 8:zyyy a:zzzz 6:zyyy 28:zzzz 8:zyyy 1e:zzzz 2:zyyy 2:zzzz 4e:zyyy 154:zzzz c:zyyy
  e:zzzz 2:zyyy d:zzzz 3:zyyy 9:zzzz 7:zyyy 2e:zzzz 1:zyyy 7:zzzz 8:zyyy e:zzzz 4:zyyy 9:zzzz
  7:zyyy 9:zzzz 7:zyyy 93:zzzz 1:zyyy 37:zzzz 25:zyyy a:zzzz 406:hani a6e0:zzzz 20:hani 103a:zzzz
  6:hani de:zzzz 2:hani 1682:zzzz e:hani 1d31:zzzz c1f:hani 21e:zzzz 5e2:hani 134b:zzzz 5:hani
  1060:zzzz adc51:zyyy 1:zzzz 1e:zyyy 60:zzzz 80:zinh f0:zzzz")

/-- The names of the scripts, each line with the four-letter form first; they are without case,
blanks, hyphens and underscores. -/
def scriptNames : List (List String) := nameLines "
  adlm adlam
  aghb caucasianalbanian
  ahom
  arab arabic
  armi imperialaramaic
  armn armenian
  avst avestan
  bali balinese
  bamu bamum
  bass bassavah
  batk batak
  beng bengali
  bhks bhaiksuki
  bopo bopomofo
  brah brahmi
  brai braille
  bugi buginese
  buhd buhid
  cakm chakma
  cans canadianaboriginal
  cari carian
  cham
  cher cherokee
  chrs chorasmian
  copt coptic qaac
  cpmn cyprominoan
  cprt cypriot
  cyrl cyrillic
  deva devanagari
  diak divesakuru
  dogr dogra
  dsrt deseret
  dupl duployan
  egyp egyptianhieroglyphs
  elba elbasan
  elym elymaic
  ethi ethiopic
  geor georgian
  glag glagolitic
  gong gunjalagondi
  gonm masaramgondi
  goth gothic
  gran grantha
  grek greek
  gujr gujarati
  guru gurmukhi
  hang hangul
  hani han
  hano hanunoo
  hatr hatran
  hebr hebrew
  hira hiragana
  hluw anatolianhieroglyphs
  hmng pahawhhmong
  hmnp nyiakengpuachuehmong
  
  hung oldhungarian
  ital olditalic
  java javanese
  kali kayahli
  kana katakana
  kawi
  khar kharoshthi
  khmr khmer
  khoj khojki
  kits khitansmallscript
  knda kannada
  kthi kaithi
  lana taitham
  laoo lao
  latn latin
  lepc lepcha
  limb limbu
  lina lineara
  linb linearb
  lisu
  lyci lycian
  lydi lydian
  mahj mahajani
  maka makasar
  mand mandaic
  mani manichaean
  marc marchen
  medf medefaidrin
  mend mendekikakui
  merc meroiticcursive
  mero meroitichieroglyphs
  mlym malayalam
  modi
  mong mongolian
  mroo mro
  mtei meeteimayek
  mult multani
  mymr myanmar
  nagm nagmundari
  nand nandinagari
  narb oldnortharabian
  nbat nabataean
  newa
  nkoo nko
  nshu nushu
  ogam ogham
  olck olchiki
  orkh oldturkic
  orya oriya
  osge osage
  osma osmanya
  ougr olduyghur
  palm palmyrene
  pauc paucinhau
  perm oldpermic
  phag phagspa
  phli inscriptionalpahlavi
  phlp psalterpahlavi
  phnx phoenician
  plrd miao
  prti inscriptionalparthian
  rjng rejang
  rohg hanifirohingya
  runr runic
  samr samaritan
  sarb oldsoutharabian
  saur saurashtra
  sgnw signwriting
  shaw shavian
  shrd sharada
  sidd siddham
  sind khudawadi
  sinh sinhala
  sogd sogdian
  sogo oldsogdian
  sora sorasompeng
  soyo soyombo
  sund sundanese
  sylo sylotinagri
  syrc syriac
  tagb tagbanwa
  takr takri
  tale taile
  talu newtailue
  taml tamil
  tang tangut
  tavt taiviet
  telu telugu
  tfng tifinagh
  tglg tagalog
  thaa thaana
  thai
  tibt tibetan
  tirh tirhuta
  tnsa tangsa
  toto
  ugar ugaritic
  vaii vai
  vith vithkuqi
  wara warangciti
  wcho wancho
  xpeo oldpersian
  xsux cuneiform
  yezi yezidi
  yiii yi
  zanb zanabazarsquare
  zinh inherited qaai
  zyyy common
  zzzz unknown"

def CodeSet.ofScript (short : String) : CodeSet := CodeSet.ofRuns scriptRuns (· = short)

def CodeSet.ofScriptExtension (short : String) : CodeSet :=
  CodeSet.ofRuns scriptExtensionRuns fun label => (label.splitToList (· = '+')).contains short

end FlagHost.Unicode
