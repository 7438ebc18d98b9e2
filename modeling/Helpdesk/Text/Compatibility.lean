/-!
# Helpdesk.Text.Compatibility — letters that are another way to write plainer letters.

Full-width letters, letters in a mathematical style, ligatures, raised and lowered letters and
presentation forms mean the same as the letters they are made from. The tables hold those that can
be part of a name, after version 14 of the Unicode character database; the plainer spelling is
complete, so that no letter of it has a plainer one.
-/
namespace Helpdesk.Text

/-- Letters that stand for one plainer letter: those of the first text for those of the second, in
the same order. -/
def styledLetters : List (String × String) := [
  ("ªµºſʰʱʲʳʴʵʶʷʸˠˡˢˣˤ\u0340\u0341\u0343ʹ·ϐϑϒϕ", "aμoshɦjrɹɻʁwyɣlsxʕ\u0300\u0301\u0313ʹ·βθΥφ"),
  ("ϖϰϱϲϴϵϹჼᴬᴭᴮᴰᴱᴲᴳᴴᴵᴶᴷᴸᴹᴺᴼᴽᴾᴿᵀᵁᵂᵃᵄᵅᵆᵇᵈᵉᵊᵋᵌᵍᵏᵐ", "πκρςΘεΣნAÆBDEƎGHIJKLMNOȢPRTUWaɐɑᴂbdeəɛɜgkm"),
  ("ᵑᵒᵓᵔᵕᵖᵗᵘᵙᵚᵛᵜᵝᵞᵟᵠᵡᵢᵣᵤᵥᵦᵧᵨᵩᵪᵸᶛᶜᶝᶞᶟᶠᶡᶢᶣᶤᶥᶦᶧᶨᶩ", "ŋoɔᴖᴗptuᴝɯvᴥβγδφχiruvβγρφχнɒcɕðɜfɟɡɥɨɩɪᵻʝɭ"),
  ("ᶪᶫᶬᶭᶮᶯᶰᶱᶲᶳᶴᶵᶶᶷᶸᶹᶺᶻᶼᶽᶾᶿιⁱⁿₐₑₒₓₔₕₖₗₘₙₚₛₜℂℇℊℋ", "ᶅʟɱɰɲɳɴɵɸʂʃƫʉʊᴜʋʌzʐʑʒθιinaeoxəhklmnpstCƐgH"),
  ("ℌℍℎℏℐℑℒℓℕℙℚℛℜℝℤΩℨKℬℭℯℰℱℳℴℵℶℷℸℹℼℽℾℿⅅⅆⅇⅈⅉⅠⅤⅩ", "HHhħIILlNPQRRRZΩZKBCeEFMoאבגדiπγΓΠDdeijIVX"),
  ("ⅬⅭⅮⅯⅰⅴⅹⅼⅽⅾⅿⱼⱽⵯ〸〹〺ㄱㄲㄳㄴㄵㄶㄷㄸㄹㄺㄻㄼㄽ", "LCDMivxlcdmjVⵡ十卄卅ᄀᄁᆪᄂᆬᆭᄃᄄᄅᆰᆱᆲᆳ"),
  ("ㄾㄿㅀㅁㅂㅃㅄㅅㅆㅇㅈㅉㅊㅋㅌㅍㅎㅏㅐㅑㅒㅓㅔ", "ᆴᆵᄚᄆᄇᄈᄡᄉᄊᄋᄌᄍᄎᄏᄐᄑ하ᅢᅣᅤᅥᅦ"),
  ("ㅕㅖㅗㅘㅙㅚㅛㅜㅝㅞㅟㅠㅡㅢㅣ\u3164ㅥㅦㅧㅨㅩㅪㅫㅬ", "ᅧᅨᅩᅪᅫᅬᅭᅮᅯᅰᅱᅲᅳᅴᅵ\u1160ᄔᄕᇇᇈᇌᇎᇓᇗ"),
  ("ㅭㅮㅯㅰㅱㅲㅳㅴㅵㅶㅷㅸㅹㅺㅻㅼㅽㅾㅿㆀㆁㆂ", "ᇙᄜᇝᇟᄝᄞᄠᄢᄣᄧᄩᄫᄬᄭᄮᄯᄲᄶᅀᅇᅌᇱ"),
  ("ㆃㆄㆅㆆㆇㆈㆉㆊㆋㆌㆍㆎꚜꚝꝰꟲꟳꟴꟸꟹꭜꭝꭞꭟꭩ豈更車賈滑", "ᇲᅗᅘᅙᆄᆅᆈᆑᆒᆔᆞᆡъьꝯCFQĦœꜧꬷɫꭒʍ豈更車賈滑"),
  ("串句龜龜契金喇奈懶癩羅蘿螺裸邏樂洛烙珞落酪", "串句龜龜契金喇奈懶癩羅蘿螺裸邏樂洛烙珞落酪"),
  ("駱亂卵欄爛蘭鸞嵐濫藍襤拉臘蠟廊朗浪狼郎來冷", "駱亂卵欄爛蘭鸞嵐濫藍襤拉臘蠟廊朗浪狼郎來冷"),
  ("勞擄櫓爐盧老蘆虜路露魯鷺碌祿綠菉錄鹿論壟弄", "勞擄櫓爐盧老蘆虜路露魯鷺碌祿綠菉錄鹿論壟弄"),
  ("籠聾牢磊賂雷壘屢樓淚漏累縷陋勒肋凜凌稜綾菱", "籠聾牢磊賂雷壘屢樓淚漏累縷陋勒肋凜凌稜綾菱"),
  ("陵讀拏樂諾丹寧怒率異北磻便復不泌數索參塞省", "陵讀拏樂諾丹寧怒率異北磻便復不泌數索參塞省"),
  ("葉說殺辰沈拾若掠略亮兩凉梁糧良諒量勵呂女廬", "葉說殺辰沈拾若掠略亮兩凉梁糧良諒量勵呂女廬"),
  ("旅濾礪閭驪麗黎力曆歷轢年憐戀撚漣煉璉秊練聯", "旅濾礪閭驪麗黎力曆歷轢年憐戀撚漣煉璉秊練聯"),
  ("輦蓮連鍊列劣咽烈裂說廉念捻殮簾獵令囹寧嶺怜", "輦蓮連鍊列劣咽烈裂說廉念捻殮簾獵令囹寧嶺怜"),
  ("玲瑩羚聆鈴零靈領例禮醴隸惡了僚寮尿料樂燎療", "玲瑩羚聆鈴零靈領例禮醴隸惡了僚寮尿料樂燎療"),
  ("蓼遼龍暈阮劉杻柳流溜琉留硫紐類六戮陸倫崙淪", "蓼遼龍暈阮劉杻柳流溜琉留硫紐類六戮陸倫崙淪"),
  ("輪律慄栗率隆利吏履易李梨泥理痢罹裏裡里離匿", "輪律慄栗率隆利吏履易李梨泥理痢罹裏裡里離匿"),
  ("溺吝燐璘藺隣鱗麟林淋臨立笠粒狀炙識什茶刺切", "溺吝燐璘藺隣鱗麟林淋臨立笠粒狀炙識什茶刺切"),
  ("度拓糖宅洞暴輻行降見廓兀嗀塚晴凞猪益礼神祥", "度拓糖宅洞暴輻行降見廓兀嗀塚晴凞猪益礼神祥"),
  ("福靖精羽蘒諸逸都飯飼館鶴郞隷侮僧免勉勤卑喝", "福靖精羽蘒諸逸都飯飼館鶴郞隷侮僧免勉勤卑喝"),
  ("嘆器塀墨層屮悔慨憎懲敏既暑梅海渚漢煮爫琢碑", "嘆器塀墨層屮悔慨憎懲敏既暑梅海渚漢煮爫琢碑"),
  ("社祉祈祐祖祝禍禎穀突節練縉繁署者臭艹艹著褐", "社祉祈祐祖祝禍禎穀突節練縉繁署者臭艹艹著褐"),
  ("視謁謹賓贈辶逸難響頻恵𤋮舘並况全侀充冀勇勺", "視謁謹賓贈辶逸難響頻恵𤋮舘並况全侀充冀勇勺"),
  ("喝啕喙嗢塚墳奄奔婢嬨廒廙彩徭惘慎愈憎慠懲戴", "喝啕喙嗢塚墳奄奔婢嬨廒廙彩徭惘慎愈憎慠懲戴"),
  ("揄搜摒敖晴朗望杖歹殺流滛滋漢瀞煮瞧爵犯猪瑱", "揄搜摒敖晴朗望杖歹殺流滛滋漢瀞煮瞧爵犯猪瑱"),
  ("甆画瘝瘟益盛直睊着磌窱節类絛練缾者荒華蝹襁", "甆画瘝瘟益盛直睊着磌窱節类絛練缾者荒華蝹襁"),
  ("覆視調諸請謁諾諭謹變贈輸遲醙鉶陼難靖韛響頋", "覆視調諸請謁諾諭謹變贈輸遲醙鉶陼難靖韛響頋"),
  ("頻鬒龜𢡊𢡄𣏕㮝䀘䀹𥉉𥳐𧻓齃龎ﬠﬡﬢﬣﬤﬥﬦﬧﬨﭐﭑﭒﭓﭔ", "頻鬒龜𢡊𢡄𣏕㮝䀘䀹𥉉𥳐𧻓齃龎עאדהכלםרתٱٱٻٻٻ"),
  ("ﭕﭖﭗﭘﭙﭚﭛﭜﭝﭞﭟﭠﭡﭢﭣﭤﭥﭦﭧﭨﭩﭪﭫﭬﭭﭮﭯﭰﭱﭲﭳﭴﭵﭶﭷﭸﭹﭺﭻﭼﭽﭾ", "ٻپپپپڀڀڀڀٺٺٺٺٿٿٿٿٹٹٹٹڤڤڤڤڦڦڦڦڄڄڄڄڃڃڃڃچچچچڇ"),
  ("ﭿﮀﮁﮂﮃﮄﮅﮆﮇﮈﮉﮊﮋﮌﮍﮎﮏﮐﮑﮒﮓﮔﮕﮖﮗﮘﮙﮚﮛﮜﮝﮞﮟﮠﮡﮢﮣﮦﮧﮨﮩﮪ", "ڇڇڇڍڍڌڌڎڎڈڈژژڑڑککککگگگگڳڳڳڳڱڱڱڱںںڻڻڻڻہہہہھ"),
  ("ﮫﮬﮭﮮﮯﯓﯔﯕﯖﯗﯘﯙﯚﯛﯜﯞﯟﯠﯡﯢﯣﯤﯥﯦﯧﯨﯩﯼﯽﯾﯿ︳︴﹍﹎﹏ﺀﺍﺎﺏ", "ھھھےےڭڭڭڭۇۇۆۆۈۈۋۋۅۅۉۉېېېېىىیییی_____ءااب"),
  ("ﺐﺑﺒﺓﺔﺕﺖﺗﺘﺙﺚﺛﺜﺝﺞﺟﺠﺡﺢﺣﺤﺥﺦﺧﺨﺩﺪﺫﺬﺭﺮﺯﺰﺱﺲﺳﺴﺵﺶﺷﺸﺹ", "بببةةتتتتثثثثججججححححخخخخددذذررززسسسسششششص"),
  ("ﺺﺻﺼﺽﺾﺿﻀﻁﻂﻃﻄﻅﻆﻇﻈﻉﻊﻋﻌﻍﻎﻏﻐﻑﻒﻓﻔﻕﻖﻗﻘﻙﻚﻛﻜﻝﻞﻟﻠﻡﻢﻣ", "صصصضضضضططططظظظظععععغغغغففففققققككككللللممم"),
  ("ﻤﻥﻦﻧﻨﻩﻪﻫﻬﻭﻮﻯﻰﻱﻲﻳﻴ０１２３４５６７８９ＡＢＣＤＥＦＧ", "مننننههههووىىيييي0123456789ABCDEFG"),
  ("ＨＩＪＫＬＭＮＯＰＱＲＳＴＵＶＷＸＹＺ＿ａｂｃｄｅｆｇｈ", "HIJKLMNOPQRSTUVWXYZ_abcdefgh"),
  ("ｉｊｋｌｍｎｏｐｑｒｓｔｕｖｗｘｙｚｦｧｨｩｪｫｬｭｮｯ", "ijklmnopqrstuvwxyzヲァィゥェォャュョッ"),
  ("ｰｱｲｳｴｵｶｷｸｹｺｻｼｽｾｿﾀﾁﾂﾃﾄﾅﾆﾇﾈﾉﾊﾋ", "ーアイウエオカキクケコサシスセソタチツテトナニヌネノハヒ"),
  ("ﾌﾍﾎﾏﾐﾑﾒﾓﾔﾕﾖﾗﾘﾙﾚﾛﾜﾝﾞﾟ\uffa0ﾡ", "フヘホマミムメモヤユヨラリルレロワン\u3099\u309a\u1160ᄀ"),
  ("ﾢﾣﾤﾥﾦﾧﾨﾩﾪﾫﾬﾭﾮﾯﾰﾱﾲﾳﾴﾵﾶﾷﾸﾹﾺﾻﾼﾽﾾￂￃￄ", "ᄁᆪᄂᆬᆭᄃᄄᄅᆰᆱᆲᆳᆴᆵᄚᄆᄇᄈᄡᄉᄊᄋᄌᄍᄎᄏᄐᄑ하ᅢᅣ"),
  ("ￅￆￇￊￋￌￍￎￏￒￓￔￕￖￗￚￛￜ𐞁𐞂𐞃𐞄𐞅𐞇𐞈𐞉𐞊𐞋𐞌𐞍𐞎𐞏𐞐𐞑𐞒𐞓𐞔𐞕𐞖𐞗𐞘𐞙", "ᅤᅥᅦᅧᅨᅩᅪᅫᅬᅭᅮᅯᅰᅱᅲᅳᅴᅵːˑæʙɓʣꭦʥʤɖɗᶑɘɞʩɤɢɠʛħʜɧʄʪ"),
  ("𐞚𐞛𐞜𐞝𐞞𐞟𐞠𐞡𐞢𐞣𐞤𐞥𐞦𐞧𐞨𐞩𐞪𐞫𐞬𐞭𐞮𐞯𐞰𐞲𐞳𐞴𐞵𐞶𐞷𐞸𐞹𐞺𝐀𝐁𝐂𝐃𝐄𝐅𝐆𝐇𝐈𝐉", "ʫɬ𝼄ꞎɮ𝼅ʎ𝼆øɶɷqɺ𝼈ɽɾʀʨʦꭧʧʈⱱʏʡʢʘǀǁǂ𝼊𝼞ABCDEFGHIJ"),
  ("𝐊𝐋𝐌𝐍𝐎𝐏𝐐𝐑𝐒𝐓𝐔𝐕𝐖𝐗𝐘𝐙𝐚𝐛𝐜𝐝𝐞𝐟𝐠𝐡𝐢𝐣𝐤𝐥𝐦𝐧𝐨𝐩𝐪𝐫𝐬𝐭𝐮𝐯𝐰𝐱𝐲𝐳", "KLMNOPQRSTUVWXYZabcdefghijklmnopqrstuvwxyz"),
  ("𝐴𝐵𝐶𝐷𝐸𝐹𝐺𝐻𝐼𝐽𝐾𝐿𝑀𝑁𝑂𝑃𝑄𝑅𝑆𝑇𝑈𝑉𝑊𝑋𝑌𝑍𝑎𝑏𝑐𝑑𝑒𝑓𝑔𝑖𝑗𝑘𝑙𝑚𝑛𝑜𝑝𝑞", "ABCDEFGHIJKLMNOPQRSTUVWXYZabcdefgijklmnopq"),
  ("𝑟𝑠𝑡𝑢𝑣𝑤𝑥𝑦𝑧𝑨𝑩𝑪𝑫𝑬𝑭𝑮𝑯𝑰𝑱𝑲𝑳𝑴𝑵𝑶𝑷𝑸𝑹𝑺𝑻𝑼𝑽𝑾𝑿𝒀𝒁𝒂𝒃𝒄𝒅𝒆𝒇𝒈", "rstuvwxyzABCDEFGHIJKLMNOPQRSTUVWXYZabcdefg"),
  ("𝒉𝒊𝒋𝒌𝒍𝒎𝒏𝒐𝒑𝒒𝒓𝒔𝒕𝒖𝒗𝒘𝒙𝒚𝒛𝒜𝒞𝒟𝒢𝒥𝒦𝒩𝒪𝒫𝒬𝒮𝒯𝒰𝒱𝒲𝒳𝒴𝒵𝒶𝒷𝒸𝒹𝒻", "hijklmnopqrstuvwxyzACDGJKNOPQSTUVWXYZabcdf"),
  ("𝒽𝒾𝒿𝓀𝓁𝓂𝓃𝓅𝓆𝓇𝓈𝓉𝓊𝓋𝓌𝓍𝓎𝓏𝓐𝓑𝓒𝓓𝓔𝓕𝓖𝓗𝓘𝓙𝓚𝓛𝓜𝓝𝓞𝓟𝓠𝓡𝓢𝓣𝓤𝓥𝓦𝓧", "hijklmnpqrstuvwxyzABCDEFGHIJKLMNOPQRSTUVWX"),
  ("𝓨𝓩𝓪𝓫𝓬𝓭𝓮𝓯𝓰𝓱𝓲𝓳𝓴𝓵𝓶𝓷𝓸𝓹𝓺𝓻𝓼𝓽𝓾𝓿𝔀𝔁𝔂𝔃𝔄𝔅𝔇𝔈𝔉𝔊𝔍𝔎𝔏𝔐𝔑𝔒𝔓𝔔", "YZabcdefghijklmnopqrstuvwxyzABDEFGJKLMNOPQ"),
  ("𝔖𝔗𝔘𝔙𝔚𝔛𝔜𝔞𝔟𝔠𝔡𝔢𝔣𝔤𝔥𝔦𝔧𝔨𝔩𝔪𝔫𝔬𝔭𝔮𝔯𝔰𝔱𝔲𝔳𝔴𝔵𝔶𝔷𝔸𝔹𝔻𝔼𝔽𝔾𝕀𝕁𝕂", "STUVWXYabcdefghijklmnopqrstuvwxyzABDEFGIJK"),
  ("𝕃𝕄𝕆𝕊𝕋𝕌𝕍𝕎𝕏𝕐𝕒𝕓𝕔𝕕𝕖𝕗𝕘𝕙𝕚𝕛𝕜𝕝𝕞𝕟𝕠𝕡𝕢𝕣𝕤𝕥𝕦𝕧𝕨𝕩𝕪𝕫𝕬𝕭𝕮𝕯𝕰𝕱", "LMOSTUVWXYabcdefghijklmnopqrstuvwxyzABCDEF"),
  ("𝕲𝕳𝕴𝕵𝕶𝕷𝕸𝕹𝕺𝕻𝕼𝕽𝕾𝕿𝖀𝖁𝖂𝖃𝖄𝖅𝖆𝖇𝖈𝖉𝖊𝖋𝖌𝖍𝖎𝖏𝖐𝖑𝖒𝖓𝖔𝖕𝖖𝖗𝖘𝖙𝖚𝖛", "GHIJKLMNOPQRSTUVWXYZabcdefghijklmnopqrstuv"),
  ("𝖜𝖝𝖞𝖟𝖠𝖡𝖢𝖣𝖤𝖥𝖦𝖧𝖨𝖩𝖪𝖫𝖬𝖭𝖮𝖯𝖰𝖱𝖲𝖳𝖴𝖵𝖶𝖷𝖸𝖹𝖺𝖻𝖼𝖽𝖾𝖿𝗀𝗁𝗂𝗃𝗄𝗅", "wxyzABCDEFGHIJKLMNOPQRSTUVWXYZabcdefghijkl"),
  ("𝗆𝗇𝗈𝗉𝗊𝗋𝗌𝗍𝗎𝗏𝗐𝗑𝗒𝗓𝗔𝗕𝗖𝗗𝗘𝗙𝗚𝗛𝗜𝗝𝗞𝗟𝗠𝗡𝗢𝗣𝗤𝗥𝗦𝗧𝗨𝗩𝗪𝗫𝗬𝗭𝗮𝗯", "mnopqrstuvwxyzABCDEFGHIJKLMNOPQRSTUVWXYZab"),
  ("𝗰𝗱𝗲𝗳𝗴𝗵𝗶𝗷𝗸𝗹𝗺𝗻𝗼𝗽𝗾𝗿𝘀𝘁𝘂𝘃𝘄𝘅𝘆𝘇𝘈𝘉𝘊𝘋𝘌𝘍𝘎𝘏𝘐𝘑𝘒𝘓𝘔𝘕𝘖𝘗𝘘𝘙", "cdefghijklmnopqrstuvwxyzABCDEFGHIJKLMNOPQR"),
  ("𝘚𝘛𝘜𝘝𝘞𝘟𝘠𝘡𝘢𝘣𝘤𝘥𝘦𝘧𝘨𝘩𝘪𝘫𝘬𝘭𝘮𝘯𝘰𝘱𝘲𝘳𝘴𝘵𝘶𝘷𝘸𝘹𝘺𝘻𝘼𝘽𝘾𝘿𝙀𝙁𝙂𝙃", "STUVWXYZabcdefghijklmnopqrstuvwxyzABCDEFGH"),
  ("𝙄𝙅𝙆𝙇𝙈𝙉𝙊𝙋𝙌𝙍𝙎𝙏𝙐𝙑𝙒𝙓𝙔𝙕𝙖𝙗𝙘𝙙𝙚𝙛𝙜𝙝𝙞𝙟𝙠𝙡𝙢𝙣𝙤𝙥𝙦𝙧𝙨𝙩𝙪𝙫𝙬𝙭", "IJKLMNOPQRSTUVWXYZabcdefghijklmnopqrstuvwx"),
  ("𝙮𝙯𝙰𝙱𝙲𝙳𝙴𝙵𝙶𝙷𝙸𝙹𝙺𝙻𝙼𝙽𝙾𝙿𝚀𝚁𝚂𝚃𝚄𝚅𝚆𝚇𝚈𝚉𝚊𝚋𝚌𝚍𝚎𝚏𝚐𝚑𝚒𝚓𝚔𝚕𝚖𝚗", "yzABCDEFGHIJKLMNOPQRSTUVWXYZabcdefghijklmn"),
  ("𝚘𝚙𝚚𝚛𝚜𝚝𝚞𝚟𝚠𝚡𝚢𝚣𝚤𝚥𝚨𝚩𝚪𝚫𝚬𝚭𝚮𝚯𝚰𝚱𝚲𝚳𝚴𝚵𝚶𝚷𝚸𝚹𝚺𝚻𝚼𝚽𝚾𝚿𝛀𝛂𝛃𝛄", "opqrstuvwxyzıȷΑΒΓΔΕΖΗΘΙΚΛΜΝΞΟΠΡΘΣΤΥΦΧΨΩαβγ"),
  ("𝛅𝛆𝛇𝛈𝛉𝛊𝛋𝛌𝛍𝛎𝛏𝛐𝛑𝛒𝛓𝛔𝛕𝛖𝛗𝛘𝛙𝛚𝛜𝛝𝛞𝛟𝛠𝛡𝛢𝛣𝛤𝛥𝛦𝛧𝛨𝛩𝛪𝛫𝛬𝛭𝛮𝛯", "δεζηθικλμνξοπρςστυφχψωεθκφρπΑΒΓΔΕΖΗΘΙΚΛΜΝΞ"),
  ("𝛰𝛱𝛲𝛳𝛴𝛵𝛶𝛷𝛸𝛹𝛺𝛼𝛽𝛾𝛿𝜀𝜁𝜂𝜃𝜄𝜅𝜆𝜇𝜈𝜉𝜊𝜋𝜌𝜍𝜎𝜏𝜐𝜑𝜒𝜓𝜔𝜖𝜗𝜘𝜙𝜚𝜛", "ΟΠΡΘΣΤΥΦΧΨΩαβγδεζηθικλμνξοπρςστυφχψωεθκφρπ"),
  ("𝜜𝜝𝜞𝜟𝜠𝜡𝜢𝜣𝜤𝜥𝜦𝜧𝜨𝜩𝜪𝜫𝜬𝜭𝜮𝜯𝜰𝜱𝜲𝜳𝜴𝜶𝜷𝜸𝜹𝜺𝜻𝜼𝜽𝜾𝜿𝝀𝝁𝝂𝝃𝝄𝝅𝝆", "ΑΒΓΔΕΖΗΘΙΚΛΜΝΞΟΠΡΘΣΤΥΦΧΨΩαβγδεζηθικλμνξοπρ"),
  ("𝝇𝝈𝝉𝝊𝝋𝝌𝝍𝝎𝝐𝝑𝝒𝝓𝝔𝝕𝝖𝝗𝝘𝝙𝝚𝝛𝝜𝝝𝝞𝝟𝝠𝝡𝝢𝝣𝝤𝝥𝝦𝝧𝝨𝝩𝝪𝝫𝝬𝝭𝝮𝝰𝝱𝝲", "ςστυφχψωεθκφρπΑΒΓΔΕΖΗΘΙΚΛΜΝΞΟΠΡΘΣΤΥΦΧΨΩαβγ"),
  ("𝝳𝝴𝝵𝝶𝝷𝝸𝝹𝝺𝝻𝝼𝝽𝝾𝝿𝞀𝞁𝞂𝞃𝞄𝞅𝞆𝞇𝞈𝞊𝞋𝞌𝞍𝞎𝞏𝞐𝞑𝞒𝞓𝞔𝞕𝞖𝞗𝞘𝞙𝞚𝞛𝞜𝞝", "δεζηθικλμνξοπρςστυφχψωεθκφρπΑΒΓΔΕΖΗΘΙΚΛΜΝΞ"),
  ("𝞞𝞟𝞠𝞡𝞢𝞣𝞤𝞥𝞦𝞧𝞨𝞪𝞫𝞬𝞭𝞮𝞯𝞰𝞱𝞲𝞳𝞴𝞵𝞶𝞷𝞸𝞹𝞺𝞻𝞼𝞽𝞾𝞿𝟀𝟁𝟂𝟄𝟅𝟆𝟇𝟈𝟉", "ΟΠΡΘΣΤΥΦΧΨΩαβγδεζηθικλμνξοπρςστυφχψωεθκφρπ"),
  ("𝟊𝟋𝟎𝟏𝟐𝟑𝟒𝟓𝟔𝟕𝟖𝟗𝟘𝟙𝟚𝟛𝟜𝟝𝟞𝟟𝟠𝟡𝟢𝟣𝟤𝟥𝟦𝟧𝟨𝟩𝟪𝟫𝟬𝟭𝟮𝟯𝟰𝟱𝟲𝟳𝟴𝟵", "Ϝϝ0123456789012345678901234567890123456789"),
  ("𝟶𝟷𝟸𝟹𝟺𝟻𝟼𝟽𝟾𝟿𞸀𞸁𞸂𞸃𞸅𞸆𞸇𞸈𞸉𞸊𞸋𞸌𞸍𞸎𞸏𞸐𞸑𞸒𞸓𞸔𞸕𞸖𞸗𞸘𞸙𞸚𞸛𞸜𞸝𞸞𞸟𞸡", "0123456789ابجدوزحطيكلمنسعفصقرشتثخذضظغٮںڡٯب"),
  ("𞸢𞸤𞸧𞸩𞸪𞸫𞸬𞸭𞸮𞸯𞸰𞸱𞸲𞸴𞸵𞸶𞸷𞸹𞸻𞹂𞹇𞹉𞹋𞹍𞹎𞹏𞹑𞹒𞹔𞹗𞹙𞹛𞹝𞹟𞹡𞹢𞹤𞹧𞹨𞹩𞹪𞹬", "جهحيكلمنسعفصقشتثخضغجحيلنسعصقشخضغںٯبجهحطيكم"),
  ("𞹭𞹮𞹯𞹰𞹱𞹲𞹴𞹵𞹶𞹷𞹹𞹺𞹻𞹼𞹾𞺀𞺁𞺂𞺃𞺄𞺅𞺆𞺇𞺈𞺉𞺋𞺌𞺍𞺎𞺏𞺐𞺑𞺒𞺓𞺔𞺕𞺖𞺗𞺘𞺙𞺚𞺛", "نسعفصقشتثخضظغٮڡابجدهوزحطيلمنسعفصقرشتثخذضظغ"),
  ("𞺡𞺢𞺣𞺥𞺦𞺧𞺨𞺩𞺫𞺬𞺭𞺮𞺯𞺰𞺱𞺲𞺳𞺴𞺵𞺶𞺷𞺸𞺹𞺺𞺻🯰🯱🯲🯳🯴🯵🯶🯷🯸🯹丽丸乁", "بجدوزحطيلمنسعفصقرشتثخذضظغ0123456789丽丸乁"),
  ("𠄢你侮侻倂偺備僧像㒞𠘺免兔兤具𠔜㒹內再𠕋冗", "𠄢你侮侻倂偺備僧像㒞𠘺免兔兤具𠔜㒹內再𠕋冗"),
  ("冤仌冬况𩇟凵刃㓟刻剆割剷㔕勇勉勤勺包匆北卉", "冤仌冬况𩇟凵刃㓟刻剆割剷㔕勇勉勤勺包匆北卉"),
  ("卑博即卽卿卿卿𠨬灰及叟𠭣叫叱吆咞吸呈周咢哶", "卑博即卽卿卿卿𠨬灰及叟𠭣叫叱吆咞吸呈周咢哶"),
  ("唐啓啣善善喙喫喳嗂圖嘆圗噑噴切壮城埴堍型堲", "唐啓啣善善喙喫喳嗂圖嘆圗噑噴切壮城埴堍型堲"),
  ("報墬𡓤売壷夆多夢奢𡚨𡛪姬娛娧姘婦㛮㛼嬈嬾嬾", "報墬𡓤売壷夆多夢奢𡚨𡛪姬娛娧姘婦㛮㛼嬈嬾嬾"),
  ("𡧈寃寘寧寳𡬘寿将当尢㞁屠屮峀岍𡷤嵃𡷦嵮嵫嵼", "𡧈寃寘寧寳𡬘寿将当尢㞁屠屮峀岍𡷤嵃𡷦嵮嵫嵼"),
  ("巡巢㠯巽帨帽幩㡢𢆃㡼庰庳庶廊𪎒廾𢌱𢌱舁弢弢", "巡巢㠯巽帨帽幩㡢𢆃㡼庰庳庶廊𪎒廾𢌱𢌱舁弢弢"),
  ("㣇𣊸𦇚形彫㣣徚忍志忹悁㤺㤜悔𢛔惇慈慌慎慌慺", "㣇𣊸𦇚形彫㣣徚忍志忹悁㤺㤜悔𢛔惇慈慌慎慌慺"),
  ("憎憲憤憯懞懲懶成戛扝抱拔捐𢬌挽拼捨掃揤𢯱搢", "憎憲憤憯懞懲懶成戛扝抱拔捐𢬌挽拼捨掃揤𢯱搢"),
  ("揅掩㨮摩摾撝摷㩬敏敬𣀊旣書晉㬙暑㬈㫤冒冕最", "揅掩㨮摩摾撝摷㩬敏敬𣀊旣書晉㬙暑㬈㫤冒冕最"),
  ("暜肭䏙朗望朡杞杓𣏃㭉柺枅桒梅𣑭梎栟椔㮝楂榣", "暜肭䏙朗望朡杞杓𣏃㭉柺枅桒梅𣑭梎栟椔㮝楂榣"),
  ("槪檨𣚣櫛㰘次𣢧歔㱎歲殟殺殻𣪍𡴋𣫺汎𣲼沿泍汧", "槪檨𣚣櫛㰘次𣢧歔㱎歲殟殺殻𣪍𡴋𣫺汎𣲼沿泍汧"),
  ("洖派海流浩浸涅𣴞洴港湮㴳滋滇𣻑淹潮𣽞𣾎濆瀹", "洖派海流浩浸涅𣴞洴港湮㴳滋滇𣻑淹潮𣽞𣾎濆瀹"),
  ("瀞瀛㶖灊災灷炭𠔥煅𤉣熜𤎫爨爵牐𤘈犀犕𤜵𤠔獺", "瀞瀛㶖灊災灷炭𠔥煅𤉣熜𤎫爨爵牐𤘈犀犕𤜵𤠔獺"),
  ("王㺬玥㺸㺸瑇瑜瑱璅瓊㼛甤𤰶甾𤲒異𢆟瘐𤾡𤾸𥁄", "王㺬玥㺸㺸瑇瑜瑱璅瓊㼛甤𤰶甾𤲒異𢆟瘐𤾡𤾸𥁄"),
  ("㿼䀈直𥃳𥃲𥄙𥄳眞真真睊䀹瞋䁆䂖𥐝硎碌磌䃣𥘦", "㿼䀈直𥃳𥃲𥄙𥄳眞真真睊䀹瞋䁆䂖𥐝硎碌磌䃣𥘦"),
  ("祖𥚚𥛅福秫䄯穀穊穏𥥼𥪧𥪧竮䈂𥮫篆築䈧𥲀糒䊠", "祖𥚚𥛅福秫䄯穀穊穏𥥼𥪧𥪧竮䈂𥮫篆築䈧𥲀糒䊠"),
  ("糨糣紀𥾆絣䌁緇縂繅䌴𦈨𦉇䍙𦋙罺𦌾羕翺者𦓚𦔣", "糨糣紀𥾆絣䌁緇縂繅䌴𦈨𦉇䍙𦋙罺𦌾羕翺者𦓚𦔣"),
  ("聠𦖨聰𣍟䏕育脃䐋脾媵𦞧𦞵𣎓𣎜舁舄辞䑫芑芋芝", "聠𦖨聰𣍟䏕育脃䐋脾媵𦞧𦞵𣎓𣎜舁舄辞䑫芑芋芝"),
  ("劳花芳芽苦𦬼若茝荣莭茣莽菧著荓菊菌菜𦰶𦵫𦳕", "劳花芳芽苦𦬼若茝荣莭茣莽菧著荓菊菌菜𦰶𦵫𦳕"),
  ("䔫蓱蓳蔖𧏊蕤𦼬䕝䕡𦾱𧃒䕫虐虜虧虩蚩蚈蜎蛢蝹", "䔫蓱蓳蔖𧏊蕤𦼬䕝䕡𦾱𧃒䕫虐虜虧虩蚩蚈蜎蛢蝹"),
  ("蜨蝫螆䗗蟡蠁䗹衠衣𧙧裗裞䘵裺㒻𧢮𧥦䚾䛇誠諭", "蜨蝫螆䗗蟡蠁䗹衠衣𧙧裗裞䘵裺㒻𧢮𧥦䚾䛇誠諭"),
  ("變豕𧲨貫賁贛起𧼯𠠄跋趼跰𠣞軔輸𨗒𨗭邔郱鄑𨜮", "變豕𧲨貫賁贛起𧼯𠠄跋趼跰𠣞軔輸𨗒𨗭邔郱鄑𨜮"),
  ("鄛鈸鋗鋘鉼鏹鐕𨯺開䦕閷𨵷䧦雃嶲霣𩅅𩈚䩮䩶韠", "鄛鈸鋗鋘鉼鏹鐕𨯺開䦕閷𨵷䧦雃嶲霣𩅅𩈚䩮䩶韠"),
  ("𩐊䪲𩒖頋頋頩𩖶飢䬳餩馧駂駾䯎𩬰鬒鱀鳽䳎䳭鵧", "𩐊䪲𩒖頋頋頩𩖶飢䬳餩馧駂駾䯎𩬰鬒鱀鳽䳎䳭鵧"),
  ("𪃎䳸𪄅𪈎𪊑麻䵖黹黾鼅鼏鼖鼻𪘀", "𪃎䳸𪄅𪈎𪊑麻䵖黹黾鼅鼏鼖鼻𪘀")]

/-- Letters that stand for several plainer ones. -/
def joinedLetters : List (String × String) := [
  ("Ĳ", "IJ"), ("ĳ", "ij"), ("Ŀ", "L·"), ("ŀ", "l·"), ("ŉ", "ʼn"), ("Ǆ", "DZ\u030c"),
  ("ǅ", "Dz\u030c"), ("ǆ", "dz\u030c"), ("Ǉ", "LJ"), ("ǈ", "Lj"), ("ǉ", "lj"), ("Ǌ", "NJ"),
  ("ǋ", "Nj"), ("ǌ", "nj"), ("Ǳ", "DZ"), ("ǲ", "Dz"), ("ǳ", "dz"), ("\u0344", "\u0308\u0301"),
  ("ϓ", "Υ\u0301"), ("ϔ", "Υ\u0308"), ("և", "եւ"), ("ٵ", "اٴ"), ("ٶ", "وٴ"), ("ٷ", "ۇٴ"),
  ("ٸ", "يٴ"), ("क़", "क\u093c"), ("ख़", "ख\u093c"), ("ग़", "ग\u093c"), ("ज़", "ज\u093c"),
  ("ड़", "ड\u093c"), ("ढ़", "ढ\u093c"), ("फ़", "फ\u093c"), ("य़", "य\u093c"), ("ড়", "ড\u09bc"),
  ("ঢ়", "ঢ\u09bc"), ("য়", "য\u09bc"), ("ਲ਼", "ਲ\u0a3c"), ("ਸ਼", "ਸ\u0a3c"), ("ਖ਼", "ਖ\u0a3c"),
  ("ਗ਼", "ਗ\u0a3c"), ("ਜ਼", "ਜ\u0a3c"), ("ਫ਼", "ਫ\u0a3c"), ("ଡ଼", "ଡ\u0b3c"), ("ଢ଼", "ଢ\u0b3c"),
  ("ำ", "\u0e4dา"), ("ຳ", "\u0ecdາ"), ("ໜ", "ຫນ"), ("ໝ", "ຫມ"), ("གྷ", "ག\u0fb7"),
  ("ཌྷ", "ཌ\u0fb7"), ("དྷ", "ད\u0fb7"), ("བྷ", "བ\u0fb7"), ("ཛྷ", "ཛ\u0fb7"), ("ཀྵ", "ཀ\u0fb5"),
  ("\u0f73", "\u0f71\u0f72"), ("\u0f75", "\u0f71\u0f74"), ("\u0f76", "\u0fb2\u0f80"),
  ("\u0f77", "\u0fb2\u0f71\u0f80"), ("\u0f78", "\u0fb3\u0f80"), ("\u0f79", "\u0fb3\u0f71\u0f80"),
  ("\u0f81", "\u0f71\u0f80"), ("\u0f93", "\u0f92\u0fb7"), ("\u0f9d", "\u0f9c\u0fb7"),
  ("\u0fa2", "\u0fa1\u0fb7"), ("\u0fa7", "\u0fa6\u0fb7"), ("\u0fac", "\u0fab\u0fb7"),
  ("\u0fb9", "\u0f90\u0fb5"), ("ẚ", "aʾ"), ("ẛ", "s\u0307"), ("ά", "α\u0301"), ("έ", "ε\u0301"),
  ("ή", "η\u0301"), ("ί", "ι\u0301"), ("ό", "ο\u0301"), ("ύ", "υ\u0301"), ("ώ", "ω\u0301"),
  ("Ά", "Α\u0301"), ("Έ", "Ε\u0301"), ("Ή", "Η\u0301"), ("ΐ", "ι\u0308\u0301"), ("Ί", "Ι\u0301"),
  ("ΰ", "υ\u0308\u0301"), ("Ύ", "Υ\u0301"), ("Ό", "Ο\u0301"), ("Ώ", "Ω\u0301"), ("Å", "A\u030a"),
  ("Ⅱ", "II"), ("Ⅲ", "III"), ("Ⅳ", "IV"), ("Ⅵ", "VI"), ("Ⅶ", "VII"), ("Ⅷ", "VIII"), ("Ⅸ", "IX"),
  ("Ⅺ", "XI"), ("Ⅻ", "XII"), ("ⅱ", "ii"), ("ⅲ", "iii"), ("ⅳ", "iv"), ("ⅵ", "vi"), ("ⅶ", "vii"),
  ("ⅷ", "viii"), ("ⅸ", "ix"), ("ⅺ", "xi"), ("ⅻ", "xii"), ("ゟ", "より"), ("ヿ", "コト"),
  ("ﬀ", "ff"), ("ﬁ", "fi"), ("ﬂ", "fl"), ("ﬃ", "ffi"), ("ﬄ", "ffl"), ("ﬅ", "st"), ("ﬆ", "st"),
  ("ﬓ", "մն"), ("ﬔ", "մե"), ("ﬕ", "մի"), ("ﬖ", "վն"), ("ﬗ", "մխ"), ("יִ", "י\u05b4"),
  ("ײַ", "ײ\u05b7"), ("שׁ", "ש\u05c1"), ("שׂ", "ש\u05c2"), ("שּׁ", "ש\u05bc\u05c1"),
  ("שּׂ", "ש\u05bc\u05c2"), ("אַ", "א\u05b7"), ("אָ", "א\u05b8"), ("אּ", "א\u05bc"), ("בּ", "ב\u05bc"),
  ("גּ", "ג\u05bc"), ("דּ", "ד\u05bc"), ("הּ", "ה\u05bc"), ("וּ", "ו\u05bc"), ("זּ", "ז\u05bc"),
  ("טּ", "ט\u05bc"), ("יּ", "י\u05bc"), ("ךּ", "ך\u05bc"), ("כּ", "כ\u05bc"), ("לּ", "ל\u05bc"),
  ("מּ", "מ\u05bc"), ("נּ", "נ\u05bc"), ("סּ", "ס\u05bc"), ("ףּ", "ף\u05bc"), ("פּ", "פ\u05bc"),
  ("צּ", "צ\u05bc"), ("קּ", "ק\u05bc"), ("רּ", "ר\u05bc"), ("שּ", "ש\u05bc"), ("תּ", "ת\u05bc"),
  ("וֹ", "ו\u05b9"), ("בֿ", "ב\u05bf"), ("כֿ", "כ\u05bf"), ("פֿ", "פ\u05bf"), ("ﭏ", "אל"),
  ("ﮤ", "ە\u0654"), ("ﮥ", "ە\u0654"), ("ﮰ", "ے\u0654"), ("ﮱ", "ے\u0654"), ("ﯝ", "ۇٴ"),
  ("ﯪ", "ي\u0654ا"), ("ﯫ", "ي\u0654ا"), ("ﯬ", "ي\u0654ە"), ("ﯭ", "ي\u0654ە"), ("ﯮ", "ي\u0654و"),
  ("ﯯ", "ي\u0654و"), ("ﯰ", "ي\u0654ۇ"), ("ﯱ", "ي\u0654ۇ"), ("ﯲ", "ي\u0654ۆ"), ("ﯳ", "ي\u0654ۆ"),
  ("ﯴ", "ي\u0654ۈ"), ("ﯵ", "ي\u0654ۈ"), ("ﯶ", "ي\u0654ې"), ("ﯷ", "ي\u0654ې"), ("ﯸ", "ي\u0654ې"),
  ("ﯹ", "ي\u0654ى"), ("ﯺ", "ي\u0654ى"), ("ﯻ", "ي\u0654ى"), ("ﰀ", "ي\u0654ج"), ("ﰁ", "ي\u0654ح"),
  ("ﰂ", "ي\u0654م"), ("ﰃ", "ي\u0654ى"), ("ﰄ", "ي\u0654ي"), ("ﰅ", "بج"), ("ﰆ", "بح"), ("ﰇ", "بخ"),
  ("ﰈ", "بم"), ("ﰉ", "بى"), ("ﰊ", "بي"), ("ﰋ", "تج"), ("ﰌ", "تح"), ("ﰍ", "تخ"), ("ﰎ", "تم"),
  ("ﰏ", "تى"), ("ﰐ", "تي"), ("ﰑ", "ثج"), ("ﰒ", "ثم"), ("ﰓ", "ثى"), ("ﰔ", "ثي"), ("ﰕ", "جح"),
  ("ﰖ", "جم"), ("ﰗ", "حج"), ("ﰘ", "حم"), ("ﰙ", "خج"), ("ﰚ", "خح"), ("ﰛ", "خم"), ("ﰜ", "سج"),
  ("ﰝ", "سح"), ("ﰞ", "سخ"), ("ﰟ", "سم"), ("ﰠ", "صح"), ("ﰡ", "صم"), ("ﰢ", "ضج"), ("ﰣ", "ضح"),
  ("ﰤ", "ضخ"), ("ﰥ", "ضم"), ("ﰦ", "طح"), ("ﰧ", "طم"), ("ﰨ", "ظم"), ("ﰩ", "عج"), ("ﰪ", "عم"),
  ("ﰫ", "غج"), ("ﰬ", "غم"), ("ﰭ", "فج"), ("ﰮ", "فح"), ("ﰯ", "فخ"), ("ﰰ", "فم"), ("ﰱ", "فى"),
  ("ﰲ", "في"), ("ﰳ", "قح"), ("ﰴ", "قم"), ("ﰵ", "قى"), ("ﰶ", "قي"), ("ﰷ", "كا"), ("ﰸ", "كج"),
  ("ﰹ", "كح"), ("ﰺ", "كخ"), ("ﰻ", "كل"), ("ﰼ", "كم"), ("ﰽ", "كى"), ("ﰾ", "كي"), ("ﰿ", "لج"),
  ("ﱀ", "لح"), ("ﱁ", "لخ"), ("ﱂ", "لم"), ("ﱃ", "لى"), ("ﱄ", "لي"), ("ﱅ", "مج"), ("ﱆ", "مح"),
  ("ﱇ", "مخ"), ("ﱈ", "مم"), ("ﱉ", "مى"), ("ﱊ", "مي"), ("ﱋ", "نج"), ("ﱌ", "نح"), ("ﱍ", "نخ"),
  ("ﱎ", "نم"), ("ﱏ", "نى"), ("ﱐ", "ني"), ("ﱑ", "هج"), ("ﱒ", "هم"), ("ﱓ", "هى"), ("ﱔ", "هي"),
  ("ﱕ", "يج"), ("ﱖ", "يح"), ("ﱗ", "يخ"), ("ﱘ", "يم"), ("ﱙ", "يى"), ("ﱚ", "يي"), ("ﱛ", "ذ\u0670"),
  ("ﱜ", "ر\u0670"), ("ﱝ", "ى\u0670"), ("ﱤ", "ي\u0654ر"), ("ﱥ", "ي\u0654ز"), ("ﱦ", "ي\u0654م"),
  ("ﱧ", "ي\u0654ن"), ("ﱨ", "ي\u0654ى"), ("ﱩ", "ي\u0654ي"), ("ﱪ", "بر"), ("ﱫ", "بز"), ("ﱬ", "بم"),
  ("ﱭ", "بن"), ("ﱮ", "بى"), ("ﱯ", "بي"), ("ﱰ", "تر"), ("ﱱ", "تز"), ("ﱲ", "تم"), ("ﱳ", "تن"),
  ("ﱴ", "تى"), ("ﱵ", "تي"), ("ﱶ", "ثر"), ("ﱷ", "ثز"), ("ﱸ", "ثم"), ("ﱹ", "ثن"), ("ﱺ", "ثى"),
  ("ﱻ", "ثي"), ("ﱼ", "فى"), ("ﱽ", "في"), ("ﱾ", "قى"), ("ﱿ", "قي"), ("ﲀ", "كا"), ("ﲁ", "كل"),
  ("ﲂ", "كم"), ("ﲃ", "كى"), ("ﲄ", "كي"), ("ﲅ", "لم"), ("ﲆ", "لى"), ("ﲇ", "لي"), ("ﲈ", "ما"),
  ("ﲉ", "مم"), ("ﲊ", "نر"), ("ﲋ", "نز"), ("ﲌ", "نم"), ("ﲍ", "نن"), ("ﲎ", "نى"), ("ﲏ", "ني"),
  ("ﲐ", "ى\u0670"), ("ﲑ", "ير"), ("ﲒ", "يز"), ("ﲓ", "يم"), ("ﲔ", "ين"), ("ﲕ", "يى"), ("ﲖ", "يي"),
  ("ﲗ", "ي\u0654ج"), ("ﲘ", "ي\u0654ح"), ("ﲙ", "ي\u0654خ"), ("ﲚ", "ي\u0654م"), ("ﲛ", "ي\u0654ه"),
  ("ﲜ", "بج"), ("ﲝ", "بح"), ("ﲞ", "بخ"), ("ﲟ", "بم"), ("ﲠ", "به"), ("ﲡ", "تج"), ("ﲢ", "تح"),
  ("ﲣ", "تخ"), ("ﲤ", "تم"), ("ﲥ", "ته"), ("ﲦ", "ثم"), ("ﲧ", "جح"), ("ﲨ", "جم"), ("ﲩ", "حج"),
  ("ﲪ", "حم"), ("ﲫ", "خج"), ("ﲬ", "خم"), ("ﲭ", "سج"), ("ﲮ", "سح"), ("ﲯ", "سخ"), ("ﲰ", "سم"),
  ("ﲱ", "صح"), ("ﲲ", "صخ"), ("ﲳ", "صم"), ("ﲴ", "ضج"), ("ﲵ", "ضح"), ("ﲶ", "ضخ"), ("ﲷ", "ضم"),
  ("ﲸ", "طح"), ("ﲹ", "ظم"), ("ﲺ", "عج"), ("ﲻ", "عم"), ("ﲼ", "غج"), ("ﲽ", "غم"), ("ﲾ", "فج"),
  ("ﲿ", "فح"), ("ﳀ", "فخ"), ("ﳁ", "فم"), ("ﳂ", "قح"), ("ﳃ", "قم"), ("ﳄ", "كج"), ("ﳅ", "كح"),
  ("ﳆ", "كخ"), ("ﳇ", "كل"), ("ﳈ", "كم"), ("ﳉ", "لج"), ("ﳊ", "لح"), ("ﳋ", "لخ"), ("ﳌ", "لم"),
  ("ﳍ", "له"), ("ﳎ", "مج"), ("ﳏ", "مح"), ("ﳐ", "مخ"), ("ﳑ", "مم"), ("ﳒ", "نج"), ("ﳓ", "نح"),
  ("ﳔ", "نخ"), ("ﳕ", "نم"), ("ﳖ", "نه"), ("ﳗ", "هج"), ("ﳘ", "هم"), ("ﳙ", "ه\u0670"), ("ﳚ", "يج"),
  ("ﳛ", "يح"), ("ﳜ", "يخ"), ("ﳝ", "يم"), ("ﳞ", "يه"), ("ﳟ", "ي\u0654م"), ("ﳠ", "ي\u0654ه"),
  ("ﳡ", "بم"), ("ﳢ", "به"), ("ﳣ", "تم"), ("ﳤ", "ته"), ("ﳥ", "ثم"), ("ﳦ", "ثه"), ("ﳧ", "سم"),
  ("ﳨ", "سه"), ("ﳩ", "شم"), ("ﳪ", "شه"), ("ﳫ", "كل"), ("ﳬ", "كم"), ("ﳭ", "لم"), ("ﳮ", "نم"),
  ("ﳯ", "نه"), ("ﳰ", "يم"), ("ﳱ", "يه"), ("ﳲ", "ـ\u064e\u0651"), ("ﳳ", "ـ\u064f\u0651"),
  ("ﳴ", "ـ\u0650\u0651"), ("ﳵ", "طى"), ("ﳶ", "طي"), ("ﳷ", "عى"), ("ﳸ", "عي"), ("ﳹ", "غى"),
  ("ﳺ", "غي"), ("ﳻ", "سى"), ("ﳼ", "سي"), ("ﳽ", "شى"), ("ﳾ", "شي"), ("ﳿ", "حى"), ("ﴀ", "حي"),
  ("ﴁ", "جى"), ("ﴂ", "جي"), ("ﴃ", "خى"), ("ﴄ", "خي"), ("ﴅ", "صى"), ("ﴆ", "صي"), ("ﴇ", "ضى"),
  ("ﴈ", "ضي"), ("ﴉ", "شج"), ("ﴊ", "شح"), ("ﴋ", "شخ"), ("ﴌ", "شم"), ("ﴍ", "شر"), ("ﴎ", "سر"),
  ("ﴏ", "صر"), ("ﴐ", "ضر"), ("ﴑ", "طى"), ("ﴒ", "طي"), ("ﴓ", "عى"), ("ﴔ", "عي"), ("ﴕ", "غى"),
  ("ﴖ", "غي"), ("ﴗ", "سى"), ("ﴘ", "سي"), ("ﴙ", "شى"), ("ﴚ", "شي"), ("ﴛ", "حى"), ("ﴜ", "حي"),
  ("ﴝ", "جى"), ("ﴞ", "جي"), ("ﴟ", "خى"), ("ﴠ", "خي"), ("ﴡ", "صى"), ("ﴢ", "صي"), ("ﴣ", "ضى"),
  ("ﴤ", "ضي"), ("ﴥ", "شج"), ("ﴦ", "شح"), ("ﴧ", "شخ"), ("ﴨ", "شم"), ("ﴩ", "شر"), ("ﴪ", "سر"),
  ("ﴫ", "صر"), ("ﴬ", "ضر"), ("ﴭ", "شج"), ("ﴮ", "شح"), ("ﴯ", "شخ"), ("ﴰ", "شم"), ("ﴱ", "سه"),
  ("ﴲ", "شه"), ("ﴳ", "طم"), ("ﴴ", "سج"), ("ﴵ", "سح"), ("ﴶ", "سخ"), ("ﴷ", "شج"), ("ﴸ", "شح"),
  ("ﴹ", "شخ"), ("ﴺ", "طم"), ("ﴻ", "ظم"), ("ﴼ", "ا\u064b"), ("ﴽ", "ا\u064b"), ("ﵐ", "تجم"),
  ("ﵑ", "تحج"), ("ﵒ", "تحج"), ("ﵓ", "تحم"), ("ﵔ", "تخم"), ("ﵕ", "تمج"), ("ﵖ", "تمح"),
  ("ﵗ", "تمخ"), ("ﵘ", "جمح"), ("ﵙ", "جمح"), ("ﵚ", "حمي"), ("ﵛ", "حمى"), ("ﵜ", "سحج"),
  ("ﵝ", "سجح"), ("ﵞ", "سجى"), ("ﵟ", "سمح"), ("ﵠ", "سمح"), ("ﵡ", "سمج"), ("ﵢ", "سمم"),
  ("ﵣ", "سمم"), ("ﵤ", "صحح"), ("ﵥ", "صحح"), ("ﵦ", "صمم"), ("ﵧ", "شحم"), ("ﵨ", "شحم"),
  ("ﵩ", "شجي"), ("ﵪ", "شمخ"), ("ﵫ", "شمخ"), ("ﵬ", "شمم"), ("ﵭ", "شمم"), ("ﵮ", "ضحى"),
  ("ﵯ", "ضخم"), ("ﵰ", "ضخم"), ("ﵱ", "طمح"), ("ﵲ", "طمح"), ("ﵳ", "طمم"), ("ﵴ", "طمي"),
  ("ﵵ", "عجم"), ("ﵶ", "عمم"), ("ﵷ", "عمم"), ("ﵸ", "عمى"), ("ﵹ", "غمم"), ("ﵺ", "غمي"),
  ("ﵻ", "غمى"), ("ﵼ", "فخم"), ("ﵽ", "فخم"), ("ﵾ", "قمح"), ("ﵿ", "قمم"), ("ﶀ", "لحم"),
  ("ﶁ", "لحي"), ("ﶂ", "لحى"), ("ﶃ", "لجج"), ("ﶄ", "لجج"), ("ﶅ", "لخم"), ("ﶆ", "لخم"),
  ("ﶇ", "لمح"), ("ﶈ", "لمح"), ("ﶉ", "محج"), ("ﶊ", "محم"), ("ﶋ", "محي"), ("ﶌ", "مجح"),
  ("ﶍ", "مجم"), ("ﶎ", "مخج"), ("ﶏ", "مخم"), ("ﶒ", "مجخ"), ("ﶓ", "همج"), ("ﶔ", "همم"),
  ("ﶕ", "نحم"), ("ﶖ", "نحى"), ("ﶗ", "نجم"), ("ﶘ", "نجم"), ("ﶙ", "نجى"), ("ﶚ", "نمي"),
  ("ﶛ", "نمى"), ("ﶜ", "يمم"), ("ﶝ", "يمم"), ("ﶞ", "بخي"), ("ﶟ", "تجي"), ("ﶠ", "تجى"),
  ("ﶡ", "تخي"), ("ﶢ", "تخى"), ("ﶣ", "تمي"), ("ﶤ", "تمى"), ("ﶥ", "جمي"), ("ﶦ", "جحى"),
  ("ﶧ", "جمى"), ("ﶨ", "سخى"), ("ﶩ", "صحي"), ("ﶪ", "شحي"), ("ﶫ", "ضحي"), ("ﶬ", "لجي"),
  ("ﶭ", "لمي"), ("ﶮ", "يحي"), ("ﶯ", "يجي"), ("ﶰ", "يمي"), ("ﶱ", "ممي"), ("ﶲ", "قمي"),
  ("ﶳ", "نحي"), ("ﶴ", "قمح"), ("ﶵ", "لحم"), ("ﶶ", "عمي"), ("ﶷ", "كمي"), ("ﶸ", "نجح"),
  ("ﶹ", "مخي"), ("ﶺ", "لجم"), ("ﶻ", "كمم"), ("ﶼ", "لجم"), ("ﶽ", "نجح"), ("ﶾ", "جحي"),
  ("ﶿ", "حجي"), ("ﷀ", "مجي"), ("ﷁ", "فمي"), ("ﷂ", "بحي"), ("ﷃ", "كمم"), ("ﷄ", "عجم"),
  ("ﷅ", "صمم"), ("ﷆ", "سخي"), ("ﷇ", "نجي"), ("ﷰ", "صلے"), ("ﷱ", "قلے"), ("ﷲ", "الله"),
  ("ﷳ", "اكبر"), ("ﷴ", "محمد"), ("ﷵ", "صلعم"), ("ﷶ", "رسول"), ("ﷷ", "عليه"), ("ﷸ", "وسلم"),
  ("ﷹ", "صلى"), ("ﹱ", "ـ\u064b"), ("ﹷ", "ـ\u064e"), ("ﹹ", "ـ\u064f"), ("ﹻ", "ـ\u0650"),
  ("ﹽ", "ـ\u0651"), ("ﹿ", "ـ\u0652"), ("ﺁ", "ا\u0653"), ("ﺂ", "ا\u0653"), ("ﺃ", "ا\u0654"),
  ("ﺄ", "ا\u0654"), ("ﺅ", "و\u0654"), ("ﺆ", "و\u0654"), ("ﺇ", "ا\u0655"), ("ﺈ", "ا\u0655"),
  ("ﺉ", "ي\u0654"), ("ﺊ", "ي\u0654"), ("ﺋ", "ي\u0654"), ("ﺌ", "ي\u0654"), ("ﻵ", "لا\u0653"),
  ("ﻶ", "لا\u0653"), ("ﻷ", "لا\u0654"), ("ﻸ", "لا\u0654"), ("ﻹ", "لا\u0655"), ("ﻺ", "لا\u0655"),
  ("ﻻ", "لا"), ("ﻼ", "لا")]

/-- What a letter of the first text has at its place in the second. -/
def counterpart? (c : Char) : List Char → List Char → Option Char
  | a :: letters, b :: counterparts =>
    if a = c then some b else counterpart? c letters counterparts
  | _, _ => none

/-- The plainer spelling of a letter that has one. -/
def plainer? (c : Char) : Option (List Char) :=
  match styledLetters.findSome? fun (letters, others) => counterpart? c letters.toList others.toList with
  | some d => some [d]
  | none => (joinedLetters.find? fun (letter, _) => letter == String.singleton c).map (·.2.toList)

end Helpdesk.Text
